import SpiDisk.Proofs.Card.Return
import SpiDisk.Proofs.Card.Tenure

/-!
# `SpiDisk.Proofs.Card.Completion` — bringing a card up comes back

Identification has one wait that is not for a byte: a card that leaves its idle state is asked again
and again, and every attempt has waits of its own. An attempt could jump over the time for which the
deadline of the whole counts as passed if it took too long. On a counter at the default rate it does not:
the waits of an attempt are over after 62 readings, and everything in front of the first attempt after 93.

## Contents
- **Readings.** How often an operation reads the clock, if a wait lasts so long at most:
  `spent_waitReady`, up to `spent_send`.
- **Steps.** `returns_pollReady` and the other steps of an identification.
- **All of it.** `returns_identify` and `Card.returns_bringUp`.
-/

namespace SpiDisk

/-- The waits of a command, which are two if it goes behind a notice. -/
def Command.waits (command : Command) : Nat :=
  if command.app then 2 else 1

namespace ChannelM

open SessionM CardEngine

variable {H C α : Type} [Host H]

/-! ## Readings -/

section Still

variable {clock : C}

/-- Moving bytes does not read the clock. -/
theorem still_steady : Steady anyFrame fun s : Session (Channel H) C => s.env.clock = clock :=
  CallSteady.steady ⟨fun _ h => h, fun _ h => h, fun _ _ h => h, fun _ h => h⟩

omit [Host H] in
theorem still_obtain (s : Session (Channel H) C) :
    Ensures obtain s fun _ s' => s'.env.clock = s.env.clock :=
  ensures_obtain (fun _ => rfl) fun _ _ => rfl

theorem still_select : Keeps (fun s : Session (Channel H) C => s.env.clock = clock) select :=
  fun s h => ensures_bind (ensures_device (keeps_drive still_steady (fun _ h => h) _ s h))

theorem still_shutdown (s : Session (Channel H) C) :
    Ensures shutdown s fun _ s' => s'.env.clock = s.env.clock := by
  refine ensures_shutdown (fun _ => rfl) fun howns => ?_
  refine (reaches_deselect s).mono fun _ s' hreaches => ⟨?_, hreaches.clock⟩
  rw [hreaches.device, s.device.parted_kept.2.1]
  exact howns

end Still

/-- A counter that moves one tick with every reading, at the default rate. -/
structure Regular (clock : Counter) : Prop where
  step : clock.step = 1
  rate : clock.rate = defaultFrequency

theorem Regular.ticked {clock : Counter} (h : Regular clock) (readings : Nat) :
    Regular (ticked readings clock) := by
  rw [ticked_counter h.step]
  exact ⟨h.step, h.rate⟩

/-- The wait for data takes thirty ticks at the default rate. -/
theorem ticks_dataTimeout :
    (min (ticksOfMillis dataTimeout defaultFrequency) horizon).toNat = 30 := by
  decide

theorem Regular.waits {clock : Counter} (h : Regular clock) : Waits 30 clock := by
  refine ⟨by decide, fun n => ?_⟩
  have hregular := h.ticked n
  have helapsed := elapsed_start hregular.step dataTimeout
  rw [hregular.rate, ticks_dataTimeout] at helapsed
  have hover := (helapsed.ticked 29).reachedAt (by decide) (by decide)
  rw [show n + 30 = n + 1 + 29 from rfl, ticked_add]
  exact hover

section Spent

variable {C : Type} [TickSource C] {s : Session (Channel H) C} {patience longest : Nat}

omit [Host H] in
/-- A poll reads the clock behind every vain attempt, and for the last time where the deadline is found
    to have passed. -/
theorem spent_pollUntil {deadline : Deadline} {attempt : ChannelM H C (Option α)}
    (hclock : ∀ s, Ensures attempt s fun _ s' => s'.env.clock = s.env.clock) (limit : Nat)
    (hover : deadline.reachedAt (TickSource.now (ticked limit s.env.clock)).1 = true) :
    Ensures (pollUntil deadline attempt patience) s fun result s' =>
      Spent 0 (if result.isSome then limit else limit + 1) s.env.clock s'.env.clock := by
  -- at every attempt the readings so far are those since `s`
  refine ensures_pollUntil (P := fun s' => ∃ n, n ≤ limit ∧
    s'.env.clock = ticked n s.env.clock) ?_ patience ⟨0, Nat.zero_le _, rfl⟩
  rintro s₁ ⟨n, hn, hclock₁⟩
  refine (hclock s₁).mono ?_
  rintro (_ | a) s₂ hs₂
  · have hnow : s₂.env.clock = ticked n s.env.clock := hs₂.trans hclock₁
    dsimp only
    rw [hnow]
    split
    · exact ⟨n + 1, Nat.zero_le _, Nat.succ_le_succ hn, rfl⟩
    · rename_i hahead
      have hne : n ≠ limit := by
        rintro rfl
        exact hahead hover
      exact ⟨n + 1, by omega, rfl⟩
  · exact ⟨n, Nat.zero_le _, hn, hs₂.trans hclock₁⟩

/-- A wait that ends well is over before its last reading. -/
theorem spent_waitReady (h : Waits longest s.env.clock) :
    Ensures (waitReady patience) s fun ready s' =>
      Spent 1 (longest + if ready then 0 else 1) s.env.clock s'.env.clock := by
  have hpos := h.pos
  have hover : (Deadline.start s.env.clock dataTimeout).1.reachedAt
      (TickSource.now (ticked (longest - 1) (TickSource.now s.env.clock).2)).1 = true := by
    have hover := h.expires 0
    rw [show 0 + longest = 1 + (longest - 1) by omega, ticked_add] at hover
    exact hover
  refine ensures_bind (ensures_startDeadline ?_)
  refine Ensures.bind (spent_pollUntil (clock_readByte _) (longest - 1) hover) fun result s₁ h₁ =>
    ensures_pure ?_
  refine ((spent_one s.env.clock).trans h₁).mono (Nat.le_refl 1) ?_
  cases result with
  | none =>
    simp only [Option.isSome_none, Bool.false_eq_true, if_false]
    omega
  | some _ =>
    simp only [Option.isSome_some, if_true]
    omega

theorem spent_selectCard (h : Waits longest s.env.clock) :
    Ensures (selectCard patience) s fun ready s' =>
      Spent 1 (longest + if ready then 0 else 1) s.env.clock s'.env.clock := by
  refine (still_obtain s).bind fun _ s₁ h₁ => ?_
  refine (still_select s₁ h₁).bind fun _ s₂ h₂ => ?_
  refine (keeps_readByte still_steady s₂ h₂).bind fun _ s₃ h₃ => ?_
  refine (spent_waitReady (by rw [h₃]; exact h)).bind fun ready s₄ h₄ => ?_
  rw [h₃] at h₄
  cases ready with
  | true => exact ensures_pure h₄
  | false =>
    refine (keeps_report (J := fun s' => s'.env.clock = s₄.env.clock) (fun _ h => h) _ s₄ rfl).bind
      fun _ s₅ h₅ => ?_
    refine (still_shutdown s₅).bind fun _ s₆ h₆ => ensures_pure ?_
    rw [h₆, h₅]
    exact h₄

/-- A command that is answered was waited for with success. -/
theorem spent_sendPlain {index : UInt8} (hindex : index ≠ Command.stopTransmission.index)
    (argument : UInt32) (h : Waits longest s.env.clock) :
    Ensures (sendPlain patience index argument) s fun r1 s' =>
      Spent 1 (longest + if R1.isAnswer r1 then 0 else 1) s.env.clock s'.env.clock := by
  unfold sendPlain
  rw [if_neg hindex]
  refine (still_shutdown s).bind fun _ s₁ h₁ => ?_
  refine (spent_selectCard (by rw [h₁]; exact h)).bind fun ready s₂ h₂ => ?_
  rw [h₁] at h₂
  cases ready with
  | true =>
    refine (keeps_exchangeFrame still_steady trivial s₂ rfl).mono fun r1 s₃ h₃ => ?_
    rw [h₃]
    exact h₂.mono (Nat.le_refl 1) (Nat.le_add_right longest _)
  | false => exact ensures_pure h₂

/-- Every command reads the clock, but not too often. -/
theorem spent_send {command : Command} (hindex : command.index ≠ Command.stopTransmission.index)
    (argument : UInt32) (h : Waits longest s.env.clock) :
    Ensures (send patience command argument) s fun r1 s' =>
      Spent 1 (command.waits * longest + if R1.isAnswer r1 then 0 else 1)
        s.env.clock s'.env.clock := by
  have hpos := h.pos
  unfold send Command.waits
  split
  · refine (spent_sendPlain (by decide) 0 h).bind fun r1 s₁ h₁ => ?_
    split
    · exact ensures_pure (h₁.mono (Nat.le_refl 1) (by omega))
    · rename_i hle
      rw [if_pos (R1.isAnswer_of_le (UInt8.not_lt.mp hle))] at h₁
      refine (spent_sendPlain hindex argument (h.spent h₁)).mono fun r1 s₂ h₂ => ?_
      exact (h₁.trans h₂).mono (by decide) (by omega)
  · refine (spent_sendPlain hindex argument h).mono fun _ _ h₁ => ?_
    exact h₁.mono (Nat.le_refl 1) (by omega)

/-- One attempt to find the card ready. -/
def ask (patience : Nat) (command : Command) (argument : UInt32) : ChannelM H C (Option Unit) := do
  let r1 ← send patience command argument
  pure (if r1 = R1.ready then some () else none)

theorem spent_ask {command : Command} (hindex : command.index ≠ Command.stopTransmission.index)
    (argument : UInt32) (h : Waits longest s.env.clock) :
    Ensures (ask patience command argument) s fun _ s' =>
      Spent 1 (command.waits * longest + 1) s.env.clock s'.env.clock := by
  refine (spent_send hindex argument h).bind fun r1 s₁ h₁ => ensures_pure ?_
  refine h₁.mono (Nat.le_refl 1) ?_
  split
  · omega
  · exact Nat.le_refl _

/-- The interface condition is asked for by a single frame. -/
theorem spent_echoesInterface (h : Waits longest s.env.clock) :
    Ensures (echoesInterface patience) s fun echo s' =>
      Spent 1 (longest + if echo then 0 else 1) s.env.clock s'.env.clock := by
  have hindex : Command.sendIfCond.index ≠ Command.stopTransmission.index := by decide
  refine (spent_sendPlain hindex ifCondPattern h).bind fun r1 s₁ h₁ => ?_
  split
  · rename_i hidle
    rw [hidle, if_pos (by decide)] at h₁
    refine (keeps_readWord still_steady s₁ rfl).bind fun _ s₂ h₂ => ensures_pure ?_
    rw [h₂]
    exact h₁.mono (Nat.le_refl 1) (by omega)
  · refine ensures_pure (h₁.mono (Nat.le_refl 1) ?_)
    show longest + _ ≤ longest + 1
    split
    · omega
    · omega

end Spent

variable {s : Session (Channel H) Counter} {patience : Nat}

/-- At the default rate no command takes more than 62 readings. -/
theorem Regular.spent_send {command : Command}
    (hindex : command.index ≠ Command.stopTransmission.index) (argument : UInt32)
    (h : Regular s.env.clock) :
    Ensures (send patience command argument) s fun _ s' => Spent 1 62 s.env.clock s'.env.clock := by
  refine (ChannelM.spent_send hindex argument h.waits).mono fun r1 s' hspent => ?_
  refine hspent.mono (Nat.le_refl 1) ?_
  unfold Command.waits
  split
  · split
    · decide
    · decide
  · split
    · decide
    · decide

/-! ## Steps -/

/-- A channel without a rival on a counter that moves one tick with every reading, at the default
    rate. -/
def Steered (s : Session (Channel H) Counter) : Prop :=
  Unhindered s ∧ s.env.clock.rate = defaultFrequency

theorem steered_invariant :
    BusInvariant anyFrame (Steered : Session (Channel H) Counter → Prop) :=
  (unhindered_invariant.and
    (clock_invariant (fun clock : Counter => clock.rate = defaultFrequency) fun _ h => h)).toBusInvariant

omit [Host H] in
theorem Steered.regular (h : Steered s) : Regular s.env.clock :=
  ⟨h.1.step, h.2⟩

omit [Host H] in
theorem Steered.enduring (h : Steered s) (hpatience : 30 ≤ patience) : Enduring patience s := by
  refine ⟨h.1.alone, h.1.step, ?_⟩
  rw [h.2, ticks_dataTimeout]
  omega

/-- A counter that moves by one gets past any number of ticks. -/
theorem waitFrom_counter {clock : Counter} (hstep : clock.step = 1) {start ticks : UInt8}
    {patience : Nat} (hpatience : ticks.toNat - (clock.value - start).toNat < patience) :
    ∃ clock', waitFrom start ticks patience clock = some clock' := by
  induction patience generalizing clock with
  | zero => omega
  | succ patience ih =>
    unfold waitFrom
    dsimp only
    split
    · rename_i hearly
      have hearly : (clock.value - start).toNat < ticks.toNat := UInt8.lt_iff_toNat_lt.mp hearly
      have hticks := ticks.toNat_lt
      -- the count is short of the ticks, so that one more does not wrap
      have hnext : (clock.value + clock.step - start).toNat = (clock.value - start).toNat + 1 := by
        rw [UInt8.toNat_sub] at hearly ⊢
        rw [UInt8.toNat_sub, UInt8.toNat_add, hstep]
        have hcount := clock.value.toNat_lt
        have hstart := start.toNat_lt
        show (2 ^ 8 - start.toNat + (clock.value.toNat + 1) % 2 ^ 8) % 2 ^ 8 = _
        omega
      have hless : ticks.toNat - (clock.value + clock.step - start).toNat < patience := by omega
      exact ih hstep hless
    · exact ⟨_, rfl⟩

omit [Host H] in
theorem returns_waitMillis {ms : UInt32} (hstep : s.env.clock.step = 1)
    (hpatience : (min (ticksOfMillis ms s.env.clock.rate) 255).toUInt8.toNat < patience) :
    Returns (waitMillis patience ms) s := by
  have hstep₁ : (TickSource.now s.env.clock).2.step = 1 := hstep
  have hwait : ∃ clock', wait patience s.env.clock ms = some clock' :=
    waitFrom_counter hstep₁ (Nat.lt_of_le_of_lt (Nat.sub_le _ _) hpatience)
  obtain ⟨clock', hwait⟩ := hwait
  rw [Returns, waitMillis_apply]
  exact ⟨(), _, Option.map_eq_some_iff.mpr ⟨clock', hwait, rfl⟩⟩

theorem returns_powerUp (hpatience : 30 ≤ patience) (h : Steered s) :
    Returns (powerUp patience) s := by
  refine (returns_obtain h.1.alone).bind ((steered_invariant.ensures_obtain h).mono fun _ s₁ h₁ => ?_)
  refine (returns_deselect s₁).bind ((steered_invariant.keeps_deselect s₁ h₁).mono fun _ s₂ h₂ => ?_)
  have hidle : Sayable anyFrame (List.replicate powerUpBytes idleByte) := sayable_any _
  refine (returns_write _ s₂).bind
    ((keeps_write steered_invariant.timed.toSteady hidle s₂ h₂).mono fun _ s₃ h₃ => ?_)
  refine returns_waitMillis h₃.1.1.step ?_
  rw [h₃.1.2]
  exact Nat.lt_of_lt_of_le (by decide) hpatience

theorem returns_resetCard (hpatience : 30 ≤ patience) (h : Steered s) :
    Returns (resetCard patience) s := by
  refine (returns_powerUp hpatience h).bind
    ((steered_invariant.upholds_powerUp patience s h).back.mono fun _ s₁ h₁ => ?_)
  refine returns_report.bind ((keeps_report steered_invariant.log _ s₁ h₁).mono fun _ s₂ h₂ => ?_)
  refine (returns_send (h₂.enduring hpatience) _ 0).then fun r1 s₃ => ?_
  split
  · exact returns_pure
  · exact returns_report.then fun _ _ => returns_pure

/-- A card is not asked for longer than there is time: every attempt takes a tick, and so does the look
    at the deadline behind it, but none takes so long that the deadline is not seen to have passed. -/
theorem returns_asking (hpatience : 30 ≤ patience) {command : Command}
    (hindex : command.index ≠ Command.stopTransmission.index) (argument : UInt32)
    {deadline : Deadline} {elapsed rounds : Nat} (hpos : 0 < rounds) (hle : elapsed ≤ 125)
    (hrounds : 61 ≤ elapsed + 2 * rounds) (h : Steered s)
    (helapsed : Elapsed deadline 60 elapsed s.env.clock) :
    Returns (pollUntil deadline (ask patience command argument) rounds) s := by
  induction rounds generalizing s elapsed with
  | zero => exact absurd hpos (Nat.lt_irrefl 0)
  | succ rounds ih =>
    have hattempt : Returns (send patience command argument) s :=
      returns_send (h.enduring hpatience) _ _
    refine (hattempt.then fun _ _ => returns_pure).bind ?_
    refine Ensures.bind ((steered_invariant.throughout_send patience hindex trivial h).back.and
      (h.regular.spent_send hindex argument)) fun r1 s₁ h₁ => ensures_pure ?_
    split
    · exact returns_pure
    obtain ⟨⟨hsteered₁, -⟩, hspent⟩ := h₁
    obtain ⟨later, hleast, hmost, hnow⟩ := helapsed.spent hspent
    refine returns_hasPassed.bind (ensures_hasPassed ?_)
    have hreached : deadline.reachedAt (TickSource.now s₁.env.clock).1 = decide (60 ≤ later) :=
      hnow.reachedAt (by decide) (by omega)
    rw [hreached]
    by_cases hpassed : 60 ≤ later
    · rw [decide_eq_true hpassed, if_pos rfl]
      exact returns_pure
    · rw [decide_eq_false hpassed, if_neg (by decide)]
      exact ih (by omega) (by omega) (by omega) (steered_invariant.tick hsteered₁) (hnow.ticked 1)

/-- **The wait for a card that is not ready yet** is over after thirty attempts, if the first is made
    soon enough. -/
theorem returns_pollReady (hpatience : 30 ≤ patience) {command : Command}
    (hindex : command.index ≠ Command.stopTransmission.index) (argument : UInt32)
    {deadline : Deadline} {elapsed : Nat} (hpos : 0 < elapsed) (hle : elapsed ≤ 125) (h : Steered s)
    (helapsed : Elapsed deadline 60 elapsed s.env.clock) :
    Returns (pollReady patience command argument deadline) s := by
  have hasking : Returns (pollUntil deadline (ask patience command argument) patience) s :=
    returns_asking hpatience hindex argument (by omega) hle (by omega) h helapsed
  refine hasking.then ?_
  rintro (_ | _) s₁
  · exact returns_report.then fun _ _ => returns_pure
  · exact returns_pure

theorem returns_echoesInterface (hpatience : 30 ≤ patience) (h : Steered s) :
    Returns (echoesInterface patience) s := by
  refine (returns_send (h.enduring hpatience) _ ifCondPattern).then fun r1 s₁ => ?_
  split
  · exact (returns_readWord s₁).then fun _ _ => returns_pure
  · exact returns_pure

theorem returns_readRegister (hpatience : 30 ≤ patience) {command : Command}
    (hindex : command.index ≠ Command.stopTransmission.index) (h : Steered s) :
    Returns (readRegister patience command).run s := by
  refine returns_course_bind (returns_step (returns_send (h.enduring hpatience) command 0)) ?_
  refine ensures_step ((steered_invariant.throughout_send patience hindex trivial h).back.mono ?_)
  rintro r1 s₁ h₁ _ ⟨⟩
  refine returns_course_bind (returns_requireReady _ r1 s₁) ?_
  refine (steered_invariant.ensures_requireReady _ h₁).mono ?_
  rintro result s₂ ⟨h₂, -⟩ _ rfl
  refine returns_course_then (returns_receiveBlock (h₂.enduring hpatience).paced registerSize)
    fun bytes s₃ => ?_
  exact returns_course_report returns_pure

theorem returns_identifyVersion2 (hpatience : 30 ≤ patience) {deadline : Deadline}
    {elapsed : Nat} (hpos : 0 < elapsed) (hle : elapsed ≤ 125) (h : Steered s)
    (helapsed : Elapsed deadline 60 elapsed s.env.clock) :
    Returns (identifyVersion2 patience deadline).run s := by
  refine returns_course_report ?_
  have h₁ := steered_invariant.log (s.env.log.report CardNote.startingOpCond) h
  refine returns_course_bind (returns_pollReady hpatience (by decide) _ hpos hle h₁ helapsed) ?_
  refine (steered_invariant.upholds_pollReady patience (by decide) (by decide) _ deadline _ h₁).back.mono ?_
  rintro result s₂ h₂ _ rfl
  refine returns_course_then (returns_step (returns_send (h₂.enduring hpatience) _ 0)) fun r1 s₃ => ?_
  refine returns_course_then (returns_requireReady _ r1 s₃) fun _ s₄ => ?_
  refine returns_course_then (returns_step (returns_readWord s₄)) fun ocr s₅ => ?_
  exact returns_course_report returns_pure

theorem returns_identifyLegacy (hpatience : 30 ≤ patience) {deadline : Deadline}
    {elapsed : Nat} (hpos : 0 < elapsed) (hle : elapsed ≤ 32) (h : Steered s)
    (helapsed : Elapsed deadline 60 elapsed s.env.clock) :
    Returns (identifyLegacy patience deadline).run s := by
  have hindex : Command.appSendOpCond.index ≠ Command.stopTransmission.index := by decide
  refine returns_course_bind (returns_step (returns_send (h.enduring hpatience) _ 0)) ?_
  refine ensures_step (((steered_invariant.throughout_send patience hindex trivial h).back.and
    (h.regular.spent_send hindex 0)).mono ?_)
  rintro probe s₁ ⟨⟨h₁, -⟩, hspent⟩ _ ⟨⟩
  obtain ⟨later, hleast, hmost, hnow⟩ := helapsed.spent hspent
  refine returns_course_report ?_
  have h₂ := steered_invariant.log (s₁.env.log.report (CardNote.pollingLegacy
    (if probe ≤ R1.idle then Family.sd1 else Family.mmc)
    (if probe ≤ R1.idle then Command.appSendOpCond else Command.sendOpCond).index)) h₁
  have hpolled : (if probe ≤ R1.idle then Command.appSendOpCond else Command.sendOpCond).index ≠
      Command.stopTransmission.index ∧ Command.movesSectors
        (if probe ≤ R1.idle then Command.appSendOpCond else Command.sendOpCond).index = false := by
    split
    · decide
    · decide
  refine returns_course_bind (returns_pollReady hpatience hpolled.1 0 (by omega) (by omega) h₂ hnow) ?_
  refine (steered_invariant.upholds_pollReady patience hpolled.1 hpolled.2 0 deadline _ h₂).back.mono ?_
  rintro result s₃ h₃ _ rfl
  refine returns_course_then (returns_step (returns_send (h₃.enduring hpatience) _ _)) fun r1 s₄ => ?_
  refine returns_course_then (returns_requireReady _ r1 s₄) fun _ s₅ => ?_
  exact returns_pure

theorem returns_identifyFamily (hpatience : 30 ≤ patience) (h : Steered s) :
    Returns (identifyFamily patience).run s := by
  have hticks : (min (ticksOfMillis initTimeout s.env.clock.rate) horizon).toNat = 60 := by
    rw [h.2]
    decide
  have helapsed := elapsed_start h.1.step initTimeout
  rw [hticks] at helapsed
  refine returns_course_bind (returns_step returns_startDeadline)
    (ensures_step (ensures_startDeadline ?_))
  rintro _ ⟨⟩
  have h₁ := steered_invariant.tick h
  refine returns_course_report ?_
  have h₂ := steered_invariant.log (s.env.log.report CardNote.checkingInterface) h₁
  refine returns_course_bind (returns_step (returns_echoesInterface hpatience h₂)) ?_
  refine ensures_step (((steered_invariant.upholds_echoesInterface patience _ h₂).back.and
    (spent_echoesInterface h₂.regular.waits)).mono ?_)
  rintro echoes s₃ ⟨h₃, hspent⟩ _ ⟨⟩
  have hone : (30 + if echoes then 0 else 1) ≤ 31 := by
    split
    · decide
    · decide
  obtain ⟨later, hleast, hmost, hnow⟩ := helapsed.spent (hspent.mono (Nat.le_refl 1) hone)
  cases echoes with
  | true =>
    refine returns_course_report ?_
    exact returns_identifyVersion2 hpatience (by omega) (by omega) (steered_invariant.log _ h₃) hnow
  | false => exact returns_identifyLegacy hpatience (by omega) (by omega) h₃ hnow

/-! ## All of it -/

/-- **Identification comes back,** whatever the card does. -/
theorem returns_identify (hpatience : 30 ≤ patience) (h : Steered s) :
    Returns (identify patience).run s := by
  refine returns_course_bind (returns_resetCard hpatience h) ?_
  refine (steered_invariant.upholds_resetCard patience s h).back.mono ?_
  rintro result s₁ h₁ _ rfl
  refine returns_course_bind (returns_identifyFamily hpatience h₁) ?_
  refine (steered_invariant.upholds_identifyFamily patience s₁ h₁).back.mono ?_
  rintro result s₂ h₂ family rfl
  refine returns_course_report ?_
  have h₃ := steered_invariant.log (s₂.env.log.report (CardNote.familyFound family)) h₂
  refine returns_course_bind (returns_readRegister hpatience (by decide) h₃) ?_
  refine (steered_invariant.upholds_readRegister patience (by decide) (by decide) _ h₃).back.mono ?_
  rintro result s₄ h₄ cid rfl
  refine returns_course_then (returns_readRegister hpatience (by decide) h₄) fun csd s₅ => ?_
  refine returns_course_then (returns_requireSize _ s₅) fun total s₆ => ?_
  refine returns_course_then (returns_requireSize _ s₆) fun blockLog s₇ => ?_
  exact returns_pure

end ChannelM

namespace Card

open SessionM ChannelM

variable {H : Type} [Host H] {s : Session (Card H) Counter} {patience : Nat}

/-- **Bringing a card up comes back** before any of its loops has taken more than thirty rounds,
    whatever the card does. -/
theorem returns_bringUp_of_thirty (hpatience : 30 ≤ patience) (h : Steered (s.at Card.channel)) :
    Returns (bringUp patience) s := by
  have hforget : Returns (forget : SessionM (Card H) Counter Unit) s := ⟨_, _, rfl⟩
  refine hforget.bind (ensures_forget ?_)
  let slow : Session (Channel H) Counter := { s.at Card.channel with device.speed := .slow }
  have hspeed : Returns (ChannelM.setSpeed .slow) (s.at Card.channel) := ⟨_, _, rfl⟩
  have hslow : Ensures (ChannelM.setSpeed .slow) (s.at Card.channel) fun _ s' => s' = slow :=
    ensures_onDevice rfl
  have h₁ : Steered slow := ⟨⟨h.1.alone, h.1.step⟩, h.2⟩
  refine Returns.bind (returns_within hspeed) (ensures_within (hslow.mono ?_))
  rintro _ _ rfl
  refine Returns.then (returns_within (returns_identify hpatience h₁)) fun outcome s₂ => ?_
  refine Returns.then (returns_within (returns_shutdown _)) fun _ s₃ => ?_
  cases outcome with
  | ok info =>
    refine Returns.then returns_onDevice fun _ s₄ => ?_
    refine Returns.then (returns_within returns_onDevice) fun _ s₅ => ?_
    exact returns_report.then fun _ _ => returns_pure
  | error error => exact returns_report.then fun _ _ => returns_pure

theorem returns_bringUp (hpatience : horizon.toNat ≤ patience) (h : Steered (s.at Card.channel)) :
    Returns (bringUp patience) s :=
  returns_bringUp_of_thirty (Nat.le_trans (by decide) hpatience) h

end Card

end SpiDisk
