import SpiDisk.Proofs.Card.DataCommands
import SpiDisk.Proofs.Card.Return
import SpiDisk.Proofs.Register.Capacity
import SpiDisk.Proofs.Tick.Waiting

/-!
# `SpiDisk.Proofs.Card.Pacing` — identification goes at slow speed

A card that is not identified yet must not be clocked faster than 400 kHz. While a channel is slow, every
byte that it moves is a call of its own on the board, and the next call is a pause, whatever the board
answers and whichever way the engine takes. Bringing a card up begins with that speed and leaves it only at
its end, and only for a card that was identified. It need not have an end: it waits for a bus that
another device owns, and for a clock that stands. What was done until then was done at that speed.

## Contents
- **Events.** `Event.moved`, and `Unhurried` for events of which every transfer is a byte with a pause
  behind it.
- **Slow channels.** `Unrushed`, a slow channel since some moment, which is a bus invariant.
- **Cards.** `Card.unhurried_bringUp`, and `Card.bringUp_held` and `Card.bringUp_standing` for attempts
  that never come back.
-/

namespace SpiDisk

/-! ## Events -/

/-- How many bytes an event moved, if it was a transfer. -/
def Event.moved : Event → Option Nat
  | .read bytes _ | .wrote bytes _ => some bytes.length
  | .exchanged sent received _ => some (max sent.length received.length)
  | _ => none

/-- Every transfer among the events, of which the latest comes first, moved one byte, and what came right
    behind it was the pause of a slow byte. -/
def Unhurried (events : List Event) : Prop :=
  ∀ later event earlier, events = later ++ event :: earlier → ∀ count, event.moved = some count →
    count = 1 ∧ ∃ rest, later = rest ++ [.pausedMicros slowPause]

theorem unhurried_nil : Unhurried [] := by
  intro later event earlier hevents
  simp at hevents

/-- What is no transfer may come at any time. -/
theorem Unhurried.still {events : List Event} (h : Unhurried events) {event : Event}
    (hstill : event.moved = none) : Unhurried (event :: events) := by
  intro later other earlier hevents count hmoved
  cases later with
  | nil =>
    obtain ⟨rfl, rfl⟩ := List.cons.inj hevents
    rw [hstill] at hmoved
    cases hmoved
  | cons latest later =>
    obtain ⟨-, hevents⟩ := List.cons.inj hevents
    obtain ⟨hcount, rest, hrest⟩ := h later other earlier hevents count hmoved
    exact ⟨hcount, latest :: rest, by rw [hrest, List.cons_append]⟩

/-- A byte may be moved if a pause follows. -/
theorem Unhurried.byte {events : List Event} (h : Unhurried events) {event : Event}
    (hbyte : event.moved = some 1) : Unhurried (.pausedMicros slowPause :: event :: events) := by
  intro later other earlier hevents count hmoved
  cases later with
  | nil =>
    obtain ⟨rfl, -⟩ := List.cons.inj hevents
    cases hmoved
  | cons latest later =>
    obtain ⟨hlatest, hevents⟩ := List.cons.inj hevents
    cases later with
    | nil =>
      obtain ⟨rfl, -⟩ := List.cons.inj hevents
      rw [hbyte] at hmoved
      cases hmoved
      exact ⟨rfl, [], by rw [hlatest, List.nil_append]⟩
    | cons second later =>
      obtain ⟨-, hevents⟩ := List.cons.inj hevents
      obtain ⟨hcount, rest, hrest⟩ := h later other earlier hevents count hmoved
      exact ⟨hcount, latest :: second :: rest, by rw [hrest, List.cons_append, List.cons_append]⟩

namespace ChannelM

open SessionM CardEngine

/-! ## Slow channels -/

variable {H C : Type}

/-- The channel is slow, and its transfers were unhurried since a moment. -/
structure Unrushed (old : List Event) (s : Session (Channel H) C) : Prop where
  slow : s.device.speed = .slow
  since : Since old Unhurried s

variable {old : List Event} {s s' : Session (Channel H) C}

/-- Nothing was done on the channel. -/
theorem Unrushed.quiet (h : Unrushed old s) (hdevice : s'.device = s.device) : Unrushed old s' := by
  refine ⟨?_, h.since.of_history (congrArg Channel.history hdevice)⟩
  rw [hdevice]
  exact h.slow

/-- Something was done that is no transfer. -/
theorem Unrushed.still (h : Unrushed old s) {event : Event} (hspeed : s'.device.speed = s.device.speed)
    (hhistory : s'.device.history = event :: s.device.history) (hstill : event.moved = none) :
    Unrushed old s' := by
  obtain ⟨events, hevents, hunhurried⟩ := h.since
  refine ⟨hspeed.trans h.slow, event :: events, ?_, hunhurried.still hstill⟩
  rw [hhistory, hevents, List.cons_append]

/-- A byte was moved, with a pause behind it. -/
theorem Unrushed.byte (h : Unrushed old s) {event : Event} (hspeed : s'.device.speed = s.device.speed)
    (hhistory : s'.device.history = .pausedMicros slowPause :: event :: s.device.history)
    (hbyte : event.moved = some 1) : Unrushed old s' := by
  obtain ⟨events, hevents, hunhurried⟩ := h.since
  refine ⟨hspeed.trans h.slow, .pausedMicros slowPause :: event :: events, ?_, hunhurried.byte hbyte⟩
  rw [hhistory, hevents, List.cons_append, List.cons_append]

variable [Host H]

theorem unrushed_read (count : Nat) :
    Keeps (Unrushed old) (read count : ChannelM H C (List UInt8)) := by
  have hpaced : ∀ count, Keeps (Unrushed old) (readPaced count : ChannelM H C (List UInt8)) := by
    intro count
    induction count with
    | zero => exact fun s h => ensures_pure h
    | succ count ih =>
      intro s h
      refine (reaches_shiftIn 1 s).bind ?_
      rintro byte _ ⟨-, log, rfl⟩
      refine ensures_bind (ensures_onDevice ?_)
      have hlength : (Channel.callRead 1 s.device).1.1.length = 1 :=
        ByteBus.length_read s.device.host 1
      refine (ih _ ?_).bind fun rest s₁ h₁ => ensures_pure h₁
      exact h.byte rfl rfl (congrArg some hlength)
  intro s h
  refine ensures_bind (ensures_device ?_)
  rw [h.slow]
  exact hpaced count s h

theorem unrushed_write (bytes : List UInt8) :
    Keeps (Unrushed old) (write bytes : ChannelM H C Unit) := by
  have hpaced : ∀ bytes, Keeps (Unrushed old) (writePaced bytes : ChannelM H C Unit) := by
    intro bytes
    induction bytes with
    | nil => exact fun s h => ensures_pure h
    | cons byte rest ih =>
      intro s h
      refine (reaches_shiftOut [byte] s).bind ?_
      rintro _ _ ⟨log, rfl⟩
      exact ensures_bind (ensures_onDevice (ih _ (h.byte rfl rfl rfl)))
  intro s h
  refine ensures_bind (ensures_device ?_)
  rw [h.slow]
  exact hpaced bytes s h

theorem steady_unrushed (old : List Event) :
    Steady anyFrame (Unrushed old : Session (Channel H) C → Prop) where
  log _ h := h.quiet rfl
  read := unrushed_read
  write bytes _ := unrushed_write bytes

variable [TickSource C]

/-- **A slow channel stays unrushed** in whatever is done on the bus. -/
theorem unrushed_invariant (old : List Event) :
    BusInvariant anyFrame (Unrushed old : Session (Channel H) C → Prop) where
  harmless _ _ := trivial
  log _ h := h.quiet rfl
  tick h := h.quiet rfl
  bytes := (steady_unrushed old).and (owned_timed true).toSteady
  callFlush _ h := h.still rfl rfl rfl
  callDrive _ _ h := h.still rfl rfl rfl
  took _ _ h := h.still rfl rfl rfl
  closed {s s'} _ h hrun := by
    have hdeselect : Keeps (Unrushed old) (deselect : ChannelM H C Unit) :=
      keeps_deselect (steady_unrushed old) (fun h => h.still rfl rfl rfl) fun _ h => h.still rfl rfl rfl
    exact (hdeselect s h () s' hrun).still rfl rfl rfl

end ChannelM

/-! ## Cards -/

namespace Card

open SessionM ChannelM CardEngine

variable {H C : Type} [Host H] [TickSource C]

/-- Bringing a card up is unhurried wherever it stands and from its first call to its last, and the speed
    tells what came of it. -/
theorem throughout_unrushed (patience : Nat) (s : Session (Card H) C) :
    Throughout (fun t => Unrushed s.device.channel.history (t.at Card.channel)) (bringUp patience) s
      fun result s' => Since s.device.channel.history Unhurried (s'.at Card.channel) ∧
        (result ≠ .ok () → s'.device.channel.speed = .slow) := by
  have hpaced := unrushed_invariant (H := H) (C := C) s.device.channel.history
  refine throughout_bind (ensures_forget ?_)
  refine throughout_bind (ensures_within (ensures_onDevice ?_))
  let s₀ : Session (Card H) C := { s with device.info := {}, device.channel.speed := .slow }
  have hstart : Unrushed s.device.channel.history (s₀.at Card.channel) :=
    ⟨rfl, [], rfl, unhurried_nil⟩
  refine (throughout_onChannel (s := s₀) (hpaced.upholds_identify patience _ hstart)).bind
    fun outcome s₁ h₁ => ?_
  refine (throughout_onChannel (hpaced.ensures_shutdown h₁).whole).bind fun _ s₂ h₂ => ?_
  have hsince : Since s.device.channel.history Unhurried (s₂.at Card.channel) := h₂.1.since
  cases outcome with
  | ok info =>
    refine throughout_bind (ensures_onDevice ?_)
    refine throughout_bind (ensures_within (ensures_onDevice ?_))
    refine throughout_bind (ensures_report (throughout_pure ?_))
    exact ⟨hsince.of_history rfl, fun h => absurd rfl h⟩
  | error error =>
    refine throughout_bind (ensures_report (throughout_pure ?_))
    exact ⟨hsince.of_history rfl, fun _ => h₂.1.slow⟩

/-- **Bringing a card up,** whatever the board does, however the clock moves and whatever was left from
    before. Every transfer of it moves a single byte, and the next call on the board is a pause of 40
    microseconds, be it that it comes back or that it waits for ever. If it comes back, it ends with a card
    that is present, was measured in the layout of its family and is used at full speed, or with a failure,
    at slow speed and with nothing known of any card. -/
theorem unhurried_bringUp {patience : Nat} {s s' : Session (Card H) C}
    {answer : Option (Except CardError Unit)} (hrun : (bringUp patience).advance s = (answer, s')) :
    (∃ events, s'.device.channel.history = events ++ s.device.channel.history ∧
      Unhurried events) ∧
      (answer = some (.ok ()) → s'.device.channel.speed = .fast ∧ s'.device.info.isPresent = true ∧
        s'.device.info.csd.layout = s'.device.info.family.csdLayout) ∧
      ∀ error, answer = some (.error error) →
        s'.device.channel.speed = .slow ∧ s'.device.info = {} := by
  have hthroughout := throughout_unrushed patience s
  cases answer with
  | none => exact ⟨(hthroughout.stands s' hrun).since, nofun, nofun⟩
  | some result =>
    have hback : bringUp patience s = some (result, s') := outcome_eq_some_iff.mpr hrun
    obtain ⟨hevents, hslow⟩ := hthroughout.back result s' hback
    refine ⟨hevents, ?_, ?_⟩
    · rintro ⟨⟩
      obtain ⟨hpresent, hmeasured, hfast⟩ := measured_bringUp patience s _ s' hback rfl
      obtain ⟨raw, hraw⟩ := hmeasured.register
      refine ⟨hfast, hpresent, ?_⟩
      rw [hraw]
      exact Csd.layout_decode _ raw
    · rintro error ⟨⟩
      exact ⟨hslow nofun, forgotten_bringUp patience s _ s' hback nofun⟩

/-- A card that is still in use at full speed is brought up again, one that was taken out is forgotten, and
    one that stays idle is polled at slow speed for as long as there is patience. -/
theorem unhurried_bringUp_again :
    let used (knobs : SimKnobs) : Session (Card SimCard) Counter :=
      { device.channel.host := { SimCard.new .sd2 with knobs }
        device.channel.line := some .one
        device.channel.speed := .fast
        device.channel.owns := true
        device.info := { family := .sdhc }
        env.bus := { held := true }
        env.clock := { value := 250 } }
    (∃ s', bringUp 60 (used {}) = some (.ok (), s') ∧ Unhurried s'.device.channel.history ∧
      s'.device.info.csd.layout = .v1) ∧
    (∃ s', bringUp 60 (used { present := false }) = some (.error .noCard, s') ∧
      Unhurried s'.device.channel.history ∧ s'.device.info = {}) ∧
    ∃ s', (bringUp 8).advance (used { initPolls := 60 }) = (none, s') ∧
      Unhurried s'.device.channel.history := by
  intro used
  refine ⟨?_, ?_, ?_⟩
  · have hback : (bringUp 60 (used {})).any (fun up =>
        up.1.isOk && decide (up.2.device.info.family = .sd2)) = true := by decide +kernel
    obtain ⟨⟨result, s'⟩, hrun, hfound⟩ := (Option.any_eq_true _ _).mp hback
    obtain ⟨hok, hfamily⟩ := (Bool.and_eq_true _ _).mp hfound
    obtain ⟨⟨events, hevents, hunhurried⟩, hup, -⟩ :=
      unhurried_bringUp (outcome_eq_some_iff.mp hrun)
    obtain rfl : s'.device.channel.history = events := hevents.trans (List.append_nil events)
    cases result with
    | error error => cases hok
    | ok _ =>
      have hlayout := (hup rfl).2.2
      rw [of_decide_eq_true hfamily] at hlayout
      exact ⟨s', hrun, hunhurried, hlayout⟩
  · have hback : (bringUp 60 (used { present := false })).any (fun up =>
        decide (up.1 = .error .noCard)) = true := by decide +kernel
    obtain ⟨⟨result, s'⟩, hrun, hresult⟩ := (Option.any_eq_true _ _).mp hback
    obtain rfl : result = .error .noCard := of_decide_eq_true hresult
    obtain ⟨⟨events, hevents, hunhurried⟩, -, hgone⟩ :=
      unhurried_bringUp (outcome_eq_some_iff.mp hrun)
    obtain rfl : s'.device.channel.history = events := hevents.trans (List.append_nil events)
    exact ⟨s', hrun, hunhurried, (hgone .noCard rfl).2⟩
  · have hleft : ((bringUp 8).advance (used { initPolls := 60 })).1.isNone = true := by
      decide +kernel
    have hrun : (bringUp 8).advance (used { initPolls := 60 }) = (none, _) :=
      Prod.ext (Option.isNone_iff_eq_none.mp hleft) rfl
    obtain ⟨⟨events, hevents, hunhurried⟩, -⟩ := unhurried_bringUp hrun
    obtain rfl : ((bringUp 8).advance (used { initPolls := 60 })).2.device.channel.history = events :=
      hevents.trans (List.append_nil events)
    exact ⟨_, hrun, hunhurried⟩

/-- Bringing a card up begins with powering it up, and comes back only if that does. -/
theorem bringUp_eq_none {patience : Nat} {s : Session (Card H) C}
    (hpower : Ensures (powerUp patience) { s.at Card.channel with device.speed := .slow }
      fun _ _ => False) : bringUp patience s = none := by
  have hidentify : Ensures (identify patience).run { s.at Card.channel with device.speed := .slow }
      fun _ _ => False :=
    ensures_course_bind (ensures_attempt (hpower.bind fun _ _ hno => hno.elim))
  refine eq_none_of_ensures (ensures_bind (ensures_forget ?_))
  refine ensures_bind (ensures_within (ensures_onDevice ?_))
  exact Ensures.bind (ensures_onChannel hidentify) fun _ _ hno => hno.elim

/-- A bus that another device owns is waited for. -/
theorem bringUp_held (patience : Nat) {s : Session (Card H) C} (howns : s.device.channel.owns = false)
    (hheld : s.env.bus.held = true) : bringUp patience s = none := by
  refine bringUp_eq_none (ensures_bind (ensures_obtain ?_ ?_))
  · intro hmine
    exact nomatch howns.symm.trans hmine
  · intro _ hfree
    exact nomatch hheld.symm.trans hfree

omit [TickSource C] in
/-- A card that has to settle for a tick or more does not on a counter that stands. -/
theorem bringUp_standing (patience : Nat) {s : Session (Card H) Counter}
    (hstep : s.env.clock.step = 0) (hticks : 1 ≤ waitTicks s.env.clock settleTime) :
    bringUp patience s = none := by
  -- nothing moves the counter, so that the wait finds it where it stood in the beginning
  have hclock : DeviceInvariant fun t : Session (Channel H) Counter => t.env.clock = s.env.clock := by
    refine clock_invariant (· = s.env.clock) fun clock hsame => ?_
    rw [hsame, now_standing hstep]
  refine bringUp_eq_none ?_
  refine (hclock.ensures_obtain rfl).bind fun _ s₁ h₁ => ?_
  refine (hclock.keeps_deselect s₁ h₁).bind fun _ s₂ h₂ => ?_
  refine (keeps_write hclock.bytes (sayable_any _) s₂ h₂).bind fun _ s₃ h₃ => ?_
  intro _ _ hrun
  rw [waitMillis_apply, h₃.1, wait_standing hstep hticks] at hrun
  cases hrun

/-- **An attempt need not end.** A card that is in order is waited for without end on a bus that another
    device owns, and on a clock that stands. -/
theorem bringUp_unending :
    let fresh (held : Bool) (step : UInt8) : Session (Card SimCard) Counter :=
      { device.channel.host := SimCard.new .sdhc
        device.channel.line := some .one
        env.bus := { held }
        env.clock := { value := 0, step } }
    (∀ patience, bringUp patience (fresh true 1) = none) ∧
      ∀ patience, bringUp patience (fresh false 0) = none := by
  intro fresh
  constructor
  · intro patience
    exact bringUp_held patience rfl rfl
  · intro patience
    exact bringUp_standing patience rfl (by decide)

end Card

end SpiDisk
