import SpiDisk.Bench.Script
import SpiDisk.Proofs.Card.Completion
import SpiDisk.Proofs.Card.Protocol
import SpiDisk.Proofs.Lockstep

/-!
# `SpiDisk.Proofs.Card.Overdue` — polling a card past its deadline

A card that does not get ready is polled until its deadline has passed, but the deadline is looked at
only between two attempts, and an attempt may take as long as its waits. On a counter of eight bits a
look that comes too late mistakes a deadline that has passed for one that is still ahead. So much
depends on the rate: up to 82 Hz no look can come too late, whatever the card does, and at 100 Hz one
does.

## Contents
- **Looks.** `look`, where a poll looks at its deadline, and `pollUntil_of_look`.
- **The way to the poll.** `approach`, what is done between setting the deadline and the first attempt,
  and `identifyFamily_eq`.
- **Readings.** `spent_approach` and `look_in_time`: how late a look can come.
- **Counters.** `kindred_counted`: what holds of a tally holds of a counter.
- **Cards.** `Card.look?`, `Card.gives_up_overdue`, and what a faster counter does.
-/

namespace SpiDisk

/-! ## Looks -/

namespace SessionM

variable {D C α : Type}

/-- The session behind an attempt that yielded nothing. -/
def vain (attempt : SessionM D C (Option α)) (s : Session D C) : Option (Session D C) :=
  match attempt s with
  | some (none, s') => some s'
  | _ => none

theorem vain_eq_some {attempt : SessionM D C (Option α)} {s s' : Session D C}
    (h : vain attempt s = some s') : attempt s = some (none, s') := by
  unfold vain at h
  split at h
  · cases h
    assumption
  · cases h

variable [TickSource C] {deadline : Deadline} {attempt : SessionM D C (Option α)}

/-- The session in which a poll looks at its deadline, with `n` looks behind it that found it ahead. -/
def look (deadline : Deadline) (attempt : SessionM D C (Option α)) :
    Nat → Session D C → Option (Session D C)
  | 0, s => vain attempt s
  | n + 1, s => (vain attempt s).bind fun s' =>
    if deadline.reachedAt (TickSource.now s'.env.clock).1 then none
    else look deadline attempt n { s' with env.clock := (TickSource.now s'.env.clock).2 }

/-- **A poll is given up** at the first look that finds the deadline passed. -/
theorem pollUntil_of_look {n patience : Nat} (hn : n < patience) {s s' : Session D C}
    (hlook : look deadline attempt n s = some s')
    (hreached : deadline.reachedAt (TickSource.now s'.env.clock).1 = true) :
    pollUntil deadline attempt patience s =
      some (none, { s' with env.clock := (TickSource.now s'.env.clock).2 }) := by
  -- every look behind which the poll goes on takes one round of its patience
  induction n generalizing s patience with
  | zero =>
    obtain ⟨patience, rfl⟩ := Nat.exists_eq_add_of_lt hn
    have hpassed : hasPassed deadline s' =
        some (true, { s' with env.clock := (TickSource.now s'.env.clock).2 }) := by
      rw [← hreached]
      rfl
    rw [pollUntil, bind_eq (vain_eq_some hlook)]
    exact bind_eq hpassed
  | succ n ih =>
    obtain ⟨patience, rfl⟩ : ∃ k, patience = k + 1 := ⟨patience - 1, by omega⟩
    obtain ⟨s₁, hvain, hlater⟩ := Option.bind_eq_some_iff.mp hlook
    split at hlater
    · cases hlater
    · rename_i hahead
      have hahead : hasPassed deadline s₁ =
          some (false, { s₁ with env.clock := (TickSource.now s₁.env.clock).2 }) := by
        rw [← Bool.eq_false_iff.mpr hahead]
        rfl
      rw [pollUntil, bind_eq (vain_eq_some hvain)]
      refine (bind_eq hahead).trans ?_
      exact ih (Nat.lt_of_succ_lt_succ hn) hlater

end SessionM

/-! ## The way to the poll -/

namespace CardEngine

open SessionM ChannelM

variable {H C : Type}

theorem step_bind {α β : Type} (action : ChannelM H C α) (next : α → ChannelM H C β) :
    step (action >>= next) = step action >>= fun a => step (next a) := by
  apply ExceptT.ext
  simp [step]

theorem course_ok {α β : Type} {first : CardM H C α} {next : α → CardM H C β}
    {s s' : Session (Channel H) C} {a : α} (h : first.run s = some (.ok a, s')) :
    (first >>= next).run s = (next a).run s' :=
  bind_eq h

theorem course_error {α β : Type} {first : CardM H C α} {next : α → CardM H C β}
    {s s' : Session (Channel H) C} {error : CardError} (h : first.run s = some (.error error, s')) :
    (first >>= next).run s = some (.error error, s') :=
  bind_eq h

theorem step_ok {α : Type} {action : ChannelM H C α} {s s' : Session (Channel H) C} {a : α}
    (h : action s = some (a, s')) : (step action).run s = some (.ok a, s') := by
  show (action >>= fun a => pure (Except.ok a)) s = _
  exact bind_eq h

variable [Host H] [TickSource C]

/-- What is done between setting the deadline and the first attempt that counts: the card is asked for
    its version and, if it is no version 2 card, polled for the first time. That answer is the result. -/
def approach (patience : Nat) : ChannelM H C (Option UInt8) := do
  report CardNote.checkingInterface
  if ← echoesInterface patience then
    report CardNote.version2Found
    report CardNote.startingOpCond
    pure none
  else
    let first ← send patience Command.appSendOpCond 0
    let family := if first ≤ R1.idle then Family.sd1 else Family.mmc
    let command := if first ≤ R1.idle then Command.appSendOpCond else Command.sendOpCond
    report (CardNote.pollingLegacy family command.index)
    pure (some first)

/-- The command that a card is polled with, and its argument. -/
def polled : Option UInt8 → Command × UInt32
  | none => (.appSendOpCond, highCapacitySupport)
  | some first => (if first ≤ R1.idle then .appSendOpCond else .sendOpCond, 0)

/-- What is left to do once the card is ready. -/
def settle (patience : Nat) : Option UInt8 → CardM H C Family
  | none => do
    let r1 ← step (send patience Command.readOcr 0)
    attempt (requireReady Command.readOcr.index r1)
    let ocr ← step readWord
    step (report (CardNote.conditions ocr))
    pure (if ocr &&& capacityStatus ≠ 0 then .sdhc else .sd2)
  | some first => do
    let r1 ← step (send patience Command.setBlockLen sectorSize.toUInt32)
    attempt (requireReady Command.setBlockLen.index r1)
    pure (if first ≤ R1.idle then .sd1 else .mmc)

/-- Whatever its version, a card is polled in one place, by the deadline that was set first. -/
theorem identifyFamily_eq (patience : Nat) :
    (identifyFamily patience : CardM H C Family) = (do
      let deadline ← step (startDeadline initTimeout)
      let first ← step (approach patience)
      attempt (pollReady patience (polled first).1 (polled first).2 deadline)
      settle patience first) := by
  unfold identifyFamily approach
  refine bind_congr fun deadline => ?_
  rw [step_bind, bind_assoc]
  refine bind_congr fun _ => ?_
  rw [step_bind, bind_assoc]
  refine bind_congr fun echo => ?_
  cases echo with
  | true =>
    simp only [if_true, step_bind, bind_assoc]
    rfl
  | false =>
    simp only [Bool.false_eq_true, if_false, step_bind, bind_assoc]
    rfl

end CardEngine

/-! ## Readings -/

theorem Command.waits_le (command : Command) : command.waits ≤ 2 := by
  unfold Command.waits
  split
  · exact Nat.le_refl 2
  · decide

theorem Tally.span_initTimeout (tally : Tally) :
    tally.span initTimeout = min tally.rate.toNat 128 := by
  have hrate := tally.rate.toNat_lt
  rw [Tally.span, toNat_min_horizon, toNat_ticksOfMillis]
  show min ((1000 * tally.rate.toNat + 999) / 1000 % 2 ^ 32) 128 = _
  omega

theorem Tally.span_dataTimeout (tally : Tally) :
    tally.span dataTimeout = min ((500 * tally.rate.toNat + 999) / 1000) 128 := by
  have hrate := tally.rate.toNat_lt
  rw [Tally.span, toNat_min_horizon, toNat_ticksOfMillis]
  show min ((500 * tally.rate.toNat + 999) / 1000 % 2 ^ 32) 128 = _
  omega

namespace ChannelM

open SessionM CardEngine

variable {H C : Type} [Host H] [TickSource C] {s : Session (Channel H) C} {patience longest : Nat}

theorem polled_index (first : Option UInt8) :
    (polled first).1.index ≠ Command.stopTransmission.index := by
  cases first with
  | none => decide
  | some first =>
    unfold polled
    dsimp only
    split
    · decide
    · decide

/-- The way to the poll and the first attempt that counts come to five waits at most. -/
theorem spent_approach (h : Waits longest s.env.clock) :
    Ensures (approach patience) s fun first s' => ∃ n, s'.env.clock = ticked n s.env.clock ∧
      n + (polled first).1.waits * longest ≤ 5 * longest + 1 := by
  have hpos := h.pos
  have hindex : Command.appSendOpCond.index ≠ Command.stopTransmission.index := by decide
  refine ensures_bind (ensures_report ?_)
  refine Ensures.bind (spent_echoesInterface h) fun echo s₁ h₁ => ?_
  cases echo with
  | true =>
    obtain ⟨n, -, hn, hclock⟩ := h₁
    refine ensures_bind (ensures_report (ensures_bind (ensures_report ?_)))
    refine ensures_pure ⟨n, hclock, ?_⟩
    show n + 2 * longest ≤ _
    simp only [if_true] at hn
    omega
  | false =>
    -- a reading that went by without an answer is made up for: the attempts have a single wait then
    refine Ensures.bind (spent_send hindex 0 (h.spent h₁)) fun first s₂ h₂ => ?_
    refine ensures_bind (ensures_report (ensures_pure ?_))
    obtain ⟨n, -, hn, hclock⟩ := h₁.trans h₂
    refine ⟨n, hclock, ?_⟩
    have htwo : Command.appSendOpCond.waits = 2 := rfl
    rw [htwo, if_neg (by decide)] at hn
    show n + (if first ≤ R1.idle then Command.appSendOpCond else Command.sendOpCond).waits *
      longest ≤ _
    by_cases hle : first ≤ R1.idle
    · rw [if_pos (R1.isAnswer_of_le hle)] at hn
      rw [if_pos hle, htwo]
      omega
    · have hone : Command.sendOpCond.waits = 1 := rfl
      rw [if_neg hle, hone]
      split at hn
      · omega
      · omega

theorem ticked_look {deadline : Deadline} {command : Command}
    (hindex : command.index ≠ Command.stopTransmission.index) {argument : UInt32} {n : Nat}
    {s s' : Session (Channel H) C} (h : Waits longest s.env.clock)
    (hlook : look deadline (ask patience command argument) n s = some s') :
    ∃ k, s'.env.clock = ticked k s.env.clock := by
  induction n generalizing s with
  | zero =>
    obtain ⟨k, -, -, hclock⟩ := spent_ask hindex argument h _ s' (vain_eq_some hlook)
    exact ⟨k, hclock⟩
  | succ n ih =>
    obtain ⟨s₁, hvain, hrest⟩ := Option.bind_eq_some_iff.mp hlook
    have hspent := spent_ask hindex argument h _ s₁ (vain_eq_some hvain)
    split at hrest
    · cases hrest
    · obtain ⟨k, hk⟩ := ih ((h.spent hspent).spent (spent_one _)) hrest
      obtain ⟨m, -, -, hm⟩ := hspent
      exact ⟨m + 1 + k, by rw [ticked_add, ticked, ← hm]; exact hk⟩

/-- **No look comes too late,** if the first does not: behind a look that found the deadline ahead, there
    is time for one more attempt before the counter turns. -/
theorem look_in_time {armed : Tally} {command : Command}
    (hindex : command.index ≠ Command.stopTransmission.index) {argument : UInt32}
    (hlongest : longest = max 1 (armed.span dataTimeout))
    (hattempt : command.waits * longest ≤ 126) {n elapsed : Nat} {s s' : Session (Channel H) Tally}
    (hclock : s.env.clock = ticked elapsed armed)
    (hle : elapsed + (command.waits * longest + 1) ≤ armed.span initTimeout + 127)
    (hlook : look (Deadline.start armed initTimeout).1 (ask patience command argument) n s =
      some s') :
    ∃ later, later ≤ armed.span initTimeout + 127 ∧ s'.env.clock = ticked later armed := by
  have hasked : ∀ {elapsed : Nat} {s s' : Session (Channel H) Tally},
      s.env.clock = ticked elapsed armed → vain (ask patience command argument) s = some s' →
        ∃ later, later ≤ elapsed + (command.waits * longest + 1) ∧
          s'.env.clock = ticked later armed := by
    intro elapsed s s' hclock hvain
    have hwaits : Waits longest s.env.clock := by
      rw [hclock, hlongest]
      exact armed.waits.spent ⟨elapsed, Nat.zero_le _, Nat.le_refl _, rfl⟩
    obtain ⟨m, -, hm, hclock'⟩ := spent_ask hindex argument hwaits _ s' (vain_eq_some hvain)
    rw [hclock, ← ticked_add] at hclock'
    exact ⟨elapsed + m, by omega, hclock'⟩
  -- a look that is in time is told right: if it found the deadline ahead, less than the span has
  -- elapsed, and the next attempt ends in time again
  induction n generalizing s elapsed with
  | zero =>
    obtain ⟨later, hlater, hclock'⟩ := hasked hclock hlook
    exact ⟨later, by omega, hclock'⟩
  | succ n ih =>
    obtain ⟨s₁, hvain, hrest⟩ := Option.bind_eq_some_iff.mp hlook
    obtain ⟨later, hlater, hclock₁⟩ := hasked hclock hvain
    rw [hclock₁, armed.reachedAt_of_le initTimeout (by omega)] at hrest
    split at hrest
    · cases hrest
    · rename_i hahead
      rw [decide_eq_true_iff] at hahead
      have hnext : ({ s₁ with env.clock := (TickSource.now s₁.env.clock).2 } :
          Session (Channel H) Tally).env.clock = ticked (later + 1) armed := by
        show (TickSource.now s₁.env.clock).2 = _
        rw [hclock₁]
        rfl
      rw [← hclock₁] at hrest
      exact ih hnext (by omega) hrest

end ChannelM

/-! ## Counters -/

/-- The counter that shows what a tally shows. -/
def Tally.counter (tally : Tally) : Counter where
  value := UInt8.ofNat tally.readings
  rate := tally.rate

/-- The same surroundings with a counter in the place of a tally. -/
def Env.counted (env : Env Tally) : Env Counter where
  bus := env.bus
  clock := env.clock.counter
  log := env.log

/-- The same session with a counter in the place of a tally. -/
def Session.counted {D : Type} (s : Session D Tally) : Session D Counter :=
  ⟨s.device, s.env.counted⟩

/-- A tally cannot be told from the counter that shows the same. -/
theorem kindred_counted :
    SessionM.Kindred 0 fun (env : Env Tally) (env' : Env Counter) => env' = env.counted where
  log _ h := by rw [h]; rfl
  tick {env env'} h := by
    have hnext : UInt8.ofNat env.clock.readings + 1 = UInt8.ofNat (env.clock.readings + 1) := by
      rw [UInt8.ofNat_add]
      rfl
    rw [h]
    show Env.mk env.bus (Counter.mk (UInt8.ofNat env.clock.readings + 1) 1 env.clock.rate)
      env.log = _
    rw [hnext]
    rfl
  hold _ h := by rw [h]; rfl
  held h := by rw [h]; rfl
  count h := by rw [h, UInt8.add_zero]; rfl
  frequency h := by rw [h]; rfl

/-! ## Cards -/

/-- A look at the deadline, while a card is brought up. -/
structure Look (H C : Type) where
  /-- Where the deadline was set. -/
  armed : Session (Channel H) C
  /-- What came of the first attempt, if there was one. -/
  first : Option UInt8
  /-- Where the poll was begun. -/
  begun : Session (Channel H) C
  /-- Where the deadline is looked at. -/
  looked : Session (Channel H) C

namespace Look

variable {H C : Type} [TickSource C]

/-- The deadline that is looked at. -/
def deadline (l : Look H C) : Deadline :=
  (Deadline.start l.armed.env.clock initTimeout).1

end Look

namespace Card

open SessionM CardEngine ChannelM

variable {H C : Type} [Host H]

/-- The look at the deadline that has `n` looks behind it, if bringing up the card gets so far. -/
def look? [TickSource C] (patience n : Nat) (s : Session (Card H) C) : Option (Look H C) :=
  match resetCard patience { s.at Card.channel with device.speed := .slow } with
  | some (.ok (), armed) =>
    let deadline := (Deadline.start armed.env.clock initTimeout).1
    match approach patience { armed with env.clock := (TickSource.now armed.env.clock).2 } with
    | some (first, begun) =>
      (look deadline (ask patience (polled first).1 (polled first).2) n begun).map fun looked =>
        { armed, first, begun, looked }
    | none => none
  | _ => none

theorem look?_eq_some [TickSource C] {patience n : Nat} {s : Session (Card H) C} {l : Look H C}
    (h : look? patience n s = some l) :
    resetCard patience { s.at Card.channel with device.speed := .slow } = some (.ok (), l.armed) ∧
      approach patience { l.armed with env.clock := (TickSource.now l.armed.env.clock).2 } =
        some (l.first, l.begun) ∧
      look l.deadline (ask patience (polled l.first).1 (polled l.first).2) n l.begun =
        some l.looked := by
  unfold look? at h
  split at h
  · rename_i armed hreset
    dsimp only at h
    split at h
    · rename_i first begun happroach
      obtain ⟨looked, hlook, rfl⟩ := Option.map_eq_some_iff.mp h
      exact ⟨hreset, happroach, hlook⟩
    · cases h
  · cases h

/-- A poll that fails is the end of bringing up the card: the bus is given back, and nothing else is
    said to the card. -/
theorem bringUp_of_poll [TickSource C] {patience n : Nat} {s : Session (Card H) C} {l : Look H C}
    (h : look? patience n s = some l) {error : CardError} {after : Session (Channel H) C}
    (hpoll : pollReady patience (polled l.first).1 (polled l.first).2 l.deadline l.begun =
      some (.error error, after)) :
    ∃ s', bringUp patience s = some (.error error, s') ∧ ∃ events,
      s'.device.channel.history = events ++ after.device.history ∧ (talk events).exchanges = [] := by
  obtain ⟨hreset, happroach, -⟩ := look?_eq_some h
  have hfamily : (identifyFamily patience).run l.armed = some (.error error, after) := by
    rw [identifyFamily_eq]
    have harmed : startDeadline initTimeout l.armed = some (l.deadline,
        { l.armed with env.clock := (TickSource.now l.armed.env.clock).2 }) := rfl
    refine (course_ok (step_ok harmed)).trans ?_
    exact (course_ok (step_ok happroach)).trans (course_error hpoll)
  have hidentify : (identify patience).run { s.at Card.channel with device.speed := .slow } =
      some (.error error, after) :=
    (course_ok hreset).trans (course_error hfamily)
  obtain ⟨_, closed, hclosed⟩ := returns_shutdown after
  have htold : Told after.device.history [] after := ⟨[], rfl, rfl⟩
  obtain ⟨events, hevents, htalk⟩ := told_shutdown htold _ closed hclosed
  -- behind the failure the bus is given back and the failure reported, and that is all
  let failed : Session (Card H) C :=
    { device := { channel := closed.device }
      env := { closed.env with
        log := closed.env.log.report (CardNote.identificationFailed error) } }
  refine ⟨failed, ?_, events, hevents, congrArg Talk.exchanges htalk⟩
  refine (bind_eq rfl).trans ((bind_eq rfl).trans ?_)
  refine (bind_eq (within_eq hidentify)).trans ?_
  exact bind_eq (within_eq hclosed)

/-- What a tally shows to be the outcome of bringing up a card is the outcome on a counter. -/
theorem bringUp_counted {patience : Nat} {s s' : Session (Card H) Tally}
    {result : Except CardError Unit} (h : bringUp patience s = some (result, s')) :
    bringUp patience s.counted = some (result, s'.counted) := by
  obtain ⟨env, hcounted, henv⟩ :=
    follows_bringUp kindred_counted (Nat.le_refl patience) s.device s.env _ rfl result s' h
  rw [henv] at hcounted
  exact hcounted

/-- A look comes so many ticks behind the setting of the deadline; up to 82 Hz, so few that the counter
    tells that the deadline has passed. -/
theorem elapsed_look? {s : Session (Card H) Tally} {patience n : Nat} {l : Look H Tally}
    (h : look? patience n s = some l) :
    ∃ elapsed, l.looked.env.clock = ticked elapsed l.armed.env.clock ∧
      (l.armed.env.clock.rate ≤ 82 → elapsed ≤ l.armed.env.clock.span initTimeout + 127) := by
  obtain ⟨-, happroach, hlook⟩ := look?_eq_some h
  obtain ⟨longest, hlongest⟩ : ∃ k, k = max 1 (l.armed.env.clock.span dataTimeout) := ⟨_, rfl⟩
  have hwaits : Waits longest (TickSource.now l.armed.env.clock).2 := by
    rw [hlongest]
    exact l.armed.env.clock.waits.spent (spent_one _)
  obtain ⟨m, hbegun, hm⟩ := spent_approach hwaits _ l.begun happroach
  have hbegun : l.begun.env.clock = ticked (1 + m) l.armed.env.clock := by
    rw [ticked_add]
    exact hbegun
  by_cases hrate : l.armed.env.clock.rate ≤ 82
  · -- a wait takes no more than 41 ticks then, and five of them are over before the counter turns
    have hle : l.armed.env.clock.rate.toNat ≤ 82 := UInt32.le_iff_toNat_le.mp hrate
    have hinit := l.armed.env.clock.span_initTimeout
    have hdata := l.armed.env.clock.span_dataTimeout
    have hattempt : (polled l.first).1.waits * longest ≤ 2 * 41 :=
      Nat.mul_le_mul (Command.waits_le _) (by omega)
    obtain ⟨elapsed, hintime, hlooked⟩ := look_in_time (polled_index l.first) hlongest
      (Nat.le_trans hattempt (by decide)) hbegun (by omega) hlook
    exact ⟨elapsed, hlooked, fun _ => hintime⟩
  · have hwaits : Waits longest l.begun.env.clock := by
      rw [hbegun, hlongest]
      exact l.armed.env.clock.waits.spent ⟨1 + m, Nat.zero_le _, Nat.le_refl _, rfl⟩
    obtain ⟨k, hlooked⟩ := ticked_look (polled_index l.first) hwaits hlook
    rw [hbegun, ← ticked_add] at hlooked
    exact ⟨1 + m + k, hlooked, fun hslow => absurd hslow hrate⟩

/-- **A deadline that has passed is found to have passed,** at any rate by a look that comes no more than
    127 ticks late, and up to 82 Hz by any look, whatever the board does. The poll is given up at that
    look, and nothing more is said to the card. The readings are those of a tally, to have a measure of
    the time; on the counter that shows the same the card is given up just so. -/
theorem gives_up_overdue {s : Session (Card H) Tally} {patience n : Nat} {l : Look H Tally}
    (h : look? patience n s = some l) (hn : n < patience)
    (hoverdue : l.armed.env.clock.readings + min s.env.clock.rate.toNat 128 ≤
      l.looked.env.clock.readings)
    (htold : s.env.clock.rate ≤ 82 ∨ l.looked.env.clock.readings ≤
      l.armed.env.clock.readings + min s.env.clock.rate.toNat 128 + 127) :
    (∃ after, pollReady patience (polled l.first).1 (polled l.first).2 l.deadline l.begun =
        some (.error .timeout, after) ∧ after.device = l.looked.device) ∧
      ∃ s', bringUp patience s = some (.error .timeout, s') ∧
        bringUp patience s.counted = some (.error .timeout, s'.counted) ∧
        ∃ events, s'.device.channel.history = events ++ l.looked.device.history ∧
          (talk events).exchanges = [] := by
  obtain ⟨hreset, -, hlook⟩ := look?_eq_some h
  have hinvariant : DeviceInvariant fun s' : Session (Channel H) Tally =>
      s'.env.clock.rate = s.env.clock.rate :=
    clock_invariant (fun clock : Tally => clock.rate = s.env.clock.rate) fun _ h => h
  have hrate := (hinvariant.upholds_resetCard patience _ rfl).back _ l.armed hreset
  obtain ⟨elapsed, hlooked, hslow⟩ := elapsed_look? h
  have hspan := l.armed.env.clock.span_initTimeout
  rw [hrate] at hspan hslow
  have hreadings : l.looked.env.clock.readings = l.armed.env.clock.readings + elapsed := by
    rw [hlooked, ticked_tally]
  have hwindow : elapsed ≤ l.armed.env.clock.span initTimeout + 127 := by
    rcases htold with hle | hle
    · exact hslow hle
    · omega
  have hreached : l.deadline.reachedAt (TickSource.now l.looked.env.clock).1 = true := by
    rw [hlooked]
    exact (l.armed.env.clock.reachedAt_of_le initTimeout hwindow).trans (decide_eq_true (by omega))
  have hpoll := pollUntil_of_look hn hlook hreached
  let after : Session (Channel H) Tally := { l.looked with
    env.clock := (TickSource.now l.looked.env.clock).2
    env.log := l.looked.env.log.report CardNote.initTimedOut }
  have hready : pollReady patience (polled l.first).1 (polled l.first).2 l.deadline l.begun =
      some (.error .timeout, after) := (bind_eq hpoll).trans rfl
  obtain ⟨s', hup, events, hevents, htalk⟩ := bringUp_of_poll h hready
  exact ⟨⟨after, hready, rfl⟩, s', hup, bringUp_counted hup, events, hevents, htalk⟩

/-- A card that never gets ready, at the default rate: the twentieth look comes 61 ticks behind the
    setting of the deadline. -/
theorem gives_up_overdue_idle :
    let card : SimCard := { SimCard.new .sdhc with knobs := { initPolls := 200 } }
    let s : Session (Card SimCard) Tally :=
      ⟨{ channel := { host := card, line := some .one } }, { clock := { readings := 250 } }⟩
    ∃ l s', look? 60 19 s = some l ∧
      l.looked.env.clock.readings = l.armed.env.clock.readings + 61 ∧
      bringUp 60 s = some (.error .timeout, s') := by
  intro card s
  have hback : (look? 60 19 s).any (fun l => decide
      (l.looked.env.clock.readings = l.armed.env.clock.readings + 61)) = true := by decide +kernel
  obtain ⟨l, hlook, hlate⟩ := (Option.any_eq_true _ _).mp hback
  have hlate := of_decide_eq_true hlate
  have hoverdue : l.armed.env.clock.readings + min s.env.clock.rate.toNat 128 ≤
      l.looked.env.clock.readings := by
    rw [hlate]
    exact Nat.add_le_add_left (by decide) _
  obtain ⟨-, s', hup, -⟩ := gives_up_overdue hlook (by decide) hoverdue (.inl (by decide))
  exact ⟨l, s', hlook, hlate, hup⟩

/-- The bytes of a version 1 card at 100 Hz that keeps each of the first five commands behind the reset
    waiting for almost half a second, and is ready at the second attempt. -/
def dawdler : Script where
  queue :=
    let slow := idleByte :: List.replicate 49 0x00 ++ [idleByte]
    [idleByte, idleByte, 0x01] ++ slow ++ [0x05] ++ slow ++ [0x01] ++ slow ++ [0x01] ++
      slow ++ [0x01] ++ slow ++ [0x01] ++
      [idleByte, idleByte, 0x01, idleByte, idleByte, 0x00, idleByte, idleByte, 0x00] ++
      [idleByte, idleByte, 0x00, 0xFE] ++ (SimCard.new .sd1).cid.encode ++ [0x00, 0x00] ++
      [idleByte, idleByte, 0x00, 0xFE] ++ (SimCard.new .sd1).csd.encode ++ [0x00, 0x00]

/-- **A deadline that is overlooked.** At 100 Hz the deadline lies 100 ticks ahead, and the first look at
    it comes 251 ticks behind its setting. It is found to lie ahead, and the card is brought up. -/
theorem overlooked :
    let s : Session (Card Script) Tally :=
      ⟨{ channel := { host := dawdler, line := some .one } },
        { clock := { readings := 0, rate := 100 } }⟩
    ∃ l s', look? 60 0 s = some l ∧
      l.looked.env.clock.readings = l.armed.env.clock.readings + 251 ∧
      bringUp 60 s = some (.ok (), s') ∧ bringUp 60 s.counted = some (.ok (), s'.counted) := by
  intro s
  have hback : (look? 60 0 s).any (fun l => decide
      (l.looked.env.clock.readings = l.armed.env.clock.readings + 251)) = true := by decide +kernel
  have hup : (bringUp 60 s).any (fun up => up.1.isOk) = true := by decide +kernel
  obtain ⟨l, hlook, hlate⟩ := (Option.any_eq_true _ _).mp hback
  obtain ⟨⟨result, s'⟩, hrun, hok⟩ := (Option.any_eq_true _ _).mp hup
  cases result with
  | error error => cases hok
  | ok _ => exact ⟨l, s', hlook, of_decide_eq_true hlate, hrun, bringUp_counted hrun⟩

end Card

end SpiDisk
