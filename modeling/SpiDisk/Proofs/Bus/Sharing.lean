import Mathlib.Logic.ExistsUnique
import SpiDisk.Proofs.Bus.Discipline

/-!
# `SpiDisk.Proofs.Bus.Sharing` — many devices, one owner

The devices of a rack may do anything that the rack offers, one action after the other and in any
order. In every rack that is reached in this way the token of the arbiter is out exactly when one of
the devices owns the bus, and it is the only one that may have a line asserted.

One action is followed by a property of its channel (`Tidy`): it says what the channel knows of the
token, which other devices may hold, and that a channel without the bus drove its lines to no mask
but zero last. Calls that a device makes without the bus cannot break it, because no such call
drives a line.

## Contents
- **Single actions.** `ActionInvariant`, which every action of a rack keeps; `RackInvariant`, which says
  nothing of lines, and its instance `Tidy`.
- **Racks.** `Reachable`, `Shared`, and `Reachable.exclusive`.
-/

namespace SpiDisk

/-- Whether an event is a call on the board that drives no line. -/
def Event.isTransfer : Event → Bool
  | .took | .gave | .drove .. => false
  | _ => true

namespace ChannelM

open SessionM CardEngine

variable {H C : Type} [Host H] [TickSource C] {I : Session (Channel H) C → Prop}

/-! ## Single actions -/

/-- A binding invariant that does not depend on the board, that calls on the board keep even if they
    are made without the bus, as long as they drive no line, and that giving up a line keeps. -/
structure ActionInvariant (I : Session (Channel H) C → Prop) : Prop extends BindingInvariant I where
  board : ∀ {s} host, I s → I { s with device.host := host }
  transfer : ∀ {s event}, event.isTransfer = true → I s →
    I { s with device := s.device.record event }
  unbind : Keeps (fun s => I s ∧ s.device.owns = false) unbind

/-- A device invariant that does not depend on the board, and that calls on the board keep even if
    they are made without the bus, as long as they drive no line. -/
structure RackInvariant (I : Session (Channel H) C → Prop) : Prop extends DeviceInvariant I where
  board : ∀ {s} host, I s → I { s with device.host := host }
  transfer : ∀ {s event}, event.isTransfer = true → I s →
    I { s with device := s.device.record event }

theorem RackInvariant.toAction (hI : RackInvariant I) : ActionInvariant I where
  toBindingInvariant := hI.toBinding
  board := hI.board
  transfer := hI.transfer
  unbind := keeps_unbind fun line attached h => ⟨hI.binding line attached h.1, h.2⟩

theorem ActionInvariant.steady (hI : ActionInvariant I) : Steady anyFrame I :=
  CallSteady.steady
    { log := hI.log
      callRead := fun _ h => hI.transfer rfl (hI.board _ h)
      callWrite := fun _ _ h => hI.transfer rfl (hI.board _ h)
      callPause := fun _ h => hI.transfer rfl (hI.board _ h) }

/-- The stop command goes out whether or not the bus is owned, every other one in brackets. -/
theorem ActionInvariant.keeps_sendPlain (hI : ActionInvariant I) (patience : Nat) (index : UInt8)
    (argument : UInt32) : Keeps I (sendPlain patience index argument) := by
  intro s h
  by_cases hstop : index = Command.stopTransmission.index
  · unfold sendPlain
    rw [if_pos hstop]
    exact keeps_exchangeFrame hI.steady trivial s h
  · exact (hI.throughout_sendPlain patience hstop trivial h).back.mono fun _ _ hs' => hs'.1

theorem ActionInvariant.keeps_send (hI : ActionInvariant I) (patience : Nat) (command : Command)
    (argument : UInt32) : Keeps I (send patience command argument) := by
  intro s h
  unfold send
  split
  · refine (hI.keeps_sendPlain patience _ 0 s h).bind fun notice s₁ h₁ => ?_
    split
    · exact ensures_pure h₁
    · exact hI.keeps_sendPlain patience _ argument s₁ h₁
  · exact hI.keeps_sendPlain patience _ argument s h

theorem ActionInvariant.ensures_drop (hI : ActionInvariant I) {s : Session (Channel H) C} (h : I s) :
    Ensures drop s fun _ s' => I s' ∧ s'.device.owns = false := by
  exact (hI.ensures_shutdown h).bind fun _ s₁ h₁ => hI.unbind s₁ h₁

/-- Whatever is done with a channel keeps an action invariant, if lines are driven by owners only and
    the bus is given back by shutting down only. -/
theorem ActionInvariant.keeps_channelAction (hI : ActionInvariant I) {action : ChannelAction H}
    {s : Session (Channel H) C} (h : I s)
    (howner : (Action.onChannel action).needsBus = true → s.device.owns = true)
    (hrelease : action ≠ .release) : Ensures action.run s fun _ s' => I s' := by
  have hcall : ∀ {event : Event} (host : H), event.isTransfer = true →
      I { s with device := { s.device with host }.record event } :=
    fun host htransfer => hI.transfer htransfer (hI.board host h)
  cases action with
  | bind id => exact (hI.bindTo id h).bind fun _ _ hs' => ensures_pure hs'.1
  | obtain => exact (hI.ensures_obtain h).bind fun _ _ hs' => ensures_pure hs'.1
  | release => exact absurd rfl hrelease
  | select =>
    exact (hI.keeps_select s ⟨h, howner rfl⟩).bind fun _ _ hs' => ensures_pure hs'.1
  | deselect =>
    exact (hI.keeps_deselect s ⟨h, howner rfl⟩).bind fun _ _ hs' => ensures_pure hs'.1
  | shutdown => exact (hI.ensures_shutdown h).bind fun _ _ hs' => ensures_pure hs'.1
  | setSpeed speed => exact (hI.keeps_setSpeed speed s h).bind fun _ _ hs' => ensures_pure hs'
  | read count => exact (hI.steady.read count s h).bind fun _ _ hs' => ensures_pure hs'
  | readByte => exact (keeps_readByte hI.steady s h).bind fun _ _ hs' => ensures_pure hs'
  | write bytes => exact (keeps_write hI.steady (sayable_any bytes) s h).bind fun _ _ hs' => ensures_pure hs'
  | adjust change => exact ensures_bind (ensures_onDevice (ensures_pure (hI.board _ h)))
  | hostRead count => exact ensures_bind (ensures_onDevice (ensures_pure (hcall _ rfl)))
  | hostWrite bytes => exact ensures_bind (ensures_onDevice (ensures_pure (hcall _ rfl)))
  | hostExchange bytes count => exact ensures_bind (ensures_onDevice (ensures_pure (hcall _ rfl)))
  | hostFlush => exact ensures_bind (ensures_onDevice (ensures_pure (hcall _ rfl)))
  | hostPauseMicros us => exact ensures_bind (ensures_onDevice (ensures_pure (hcall _ rfl)))
  | hostPauseNanos ns => exact ensures_bind (ensures_onDevice (ensures_pure (hcall _ rfl)))

end ChannelM

namespace Action

open SessionM ChannelM

variable {H C : Type} [Host H] [TickSource C] {I : Session (Channel H) C → Prop}

theorem keeps_cardAction (hI : ActionInvariant I) (patience : Nat) {action : CardAction}
    {s : Session (Device H) C} (h : I (s.at Device.link)) :
    Ensures ((onCard action).run patience) s fun _ s' => I (s'.at Device.link) := by
  by_cases htransaction : (onCard action : Action H).isTransaction = true
  · exact (throughout_transaction hI.toBindingInvariant patience htransaction h).back.mono fun _ _ hs' => hs'.1
  refine ensures_onCard h fun card hlink => ?_
  rw [hlink] at h
  cases action with
  | send command argument =>
    exact (Card.ensures_onChannel (hI.keeps_send patience command argument _ h)).bind
      fun _ _ hs' => ensures_pure hs'
  | address lba => exact ensures_bind (ensures_device (ensures_pure h))
  | info => exact ensures_bind (ensures_device (ensures_pure h))
  | forget => exact ensures_bind (Card.ensures_forget (ensures_pure h))
  | _ => exact absurd rfl htransaction

theorem keeps_diskAction (hI : ActionInvariant I) (patience : Nat) {action : DiskAction}
    {s : Session (Device H) C} (h : I (s.at Device.link)) :
    Ensures ((onDisk action).run patience) s fun _ s' => I (s'.at Device.link) := by
  by_cases htransaction : (onDisk action : Action H).isTransaction = true
  · exact (throughout_transaction hI.toBindingInvariant patience htransaction h).back.mono fun _ _ hs' => hs'.1
  refine ensures_onDisk h fun disk hlink => ?_
  rw [hlink] at h
  refine (quiet_onDisk patience (Bool.eq_false_iff.mpr htransaction) ⟨disk, s.env⟩).mono ?_
  rintro _ _ ⟨log, rfl⟩
  exact hI.log log h

/-- **Every action keeps an action invariant,** if lines are driven by owners only and the bus is given
    back by shutting down only; and a device that is taken out has not got the bus. -/
theorem keeps_run (hI : ActionInvariant I) (patience : Nat) {action : Action H}
    {s : Session (Device H) C} (h : I (s.at Device.link))
    (howner : action.needsBus = true → s.device.link.owns = true)
    (hrelease : action ≠ .onChannel .release) :
    Ensures (action.run patience) s fun _ s' =>
      I (s'.at Device.link) ∧ (action = .drop → s'.device.link.owns = false) := by
  cases action with
  | onChannel action =>
    have hchannel := hI.keeps_channelAction h howner fun heq => hrelease (heq ▸ rfl)
    refine ensures_within (hchannel.mono fun answer inner hinner => ⟨?_, by rintro ⟨⟩⟩)
    rw [Session.at, Device.link_setLink]
    exact hinner
  | onCard action =>
    exact (keeps_cardAction hI patience h).mono fun _ _ hs' => ⟨hs', by rintro ⟨⟩⟩
  | onDisk action =>
    exact (keeps_diskAction hI patience h).mono fun _ _ hs' => ⟨hs', by rintro ⟨⟩⟩
  | drop =>
    refine ensures_bind (ensures_within ((hI.ensures_drop h).mono fun _ inner hinner => ?_))
    refine ensures_pure ?_
    rw [Session.at, Device.link_setLink]
    exact ⟨hinner.1, fun _ => hinner.2⟩

end Action

/-! ## A channel among others -/

namespace ChannelM

variable {H C : Type} {old : List Event} {line : UInt8} {elsewhere : Bool}

/-- A channel that had the events `old` behind it and had driven the mask `line` last, while another
    device owned the bus or none did. -/
structure Tidy (old : List Event) (line : UInt8) (elsewhere : Bool) (s : Session (Channel H) C) :
    Prop where
  intro ::
  since : ∃ events, s.device.history = events ++ old ∧
    (s.device.owns = false → (lastMask events).getD line = 0)
  token : s.env.bus.held = (s.device.owns || elsewhere)
  alone : s.device.owns = true → elsewhere = false

theorem lastMask_transfer {event : Event} (htransfer : event.isTransfer = true)
    (earlier : List Event) : lastMask (event :: earlier) = lastMask earlier := by
  cases event <;> first | rfl | cases htransfer

/-- What an owner does, or what drives no line, leaves a channel tidy. -/
theorem Tidy.act {s : Session (Channel H) C} (h : Tidy old line elsewhere s) (host : H)
    {event : Event} (hevent : event.isTransfer = true ∨ s.device.owns = true) :
    Tidy old line elsewhere { s with device := { s.device with host }.record event } := by
  obtain ⟨⟨events, hhistory, hmask⟩, htoken, halone⟩ := h
  refine ⟨⟨event :: events, congrArg (event :: ·) hhistory, fun haway => ?_⟩, htoken, halone⟩
  rcases hevent with htransfer | howns
  · rw [lastMask_transfer htransfer]
    exact hmask haway
  · rw [show s.device.owns = false from haway] at howns
    cases howns

variable [Host H]

/-- An owner that de-selects and gives the bus back is tidy behind it. -/
theorem Tidy.closed {s s' : Session (Channel H) C} (h : Tidy old line elsewhere s)
    (howns : s.device.owns = true) (hreach : Reaches s s.device.parted s') :
    Tidy old line elsewhere (given s') := by
  obtain ⟨⟨events, hhistory, -⟩, -, halone⟩ := h
  obtain ⟨acts, hacts, hparted, -⟩ := s.device.history_parted
  refine ⟨⟨.gave :: (acts ++ events), ?_, fun _ => ?_⟩, (halone howns).symm, fun hno => nomatch hno⟩
  · have hdevice : s'.device.history = acts ++ events ++ old := by
      rw [hreach.device, hacts, hhistory, List.append_assoc]
    exact congrArg (Event.gave :: ·) hdevice
  · have hlast : lastMask (acts ++ events) = some 0 := by
      have := (hparted []).lastMask_append events
      rwa [List.append_nil] at this
    exact congrArg (Option.getD · line) hlast

variable [TickSource C]

theorem tidy_invariant (old : List Event) (line : UInt8) (elsewhere : Bool) :
    RackInvariant (Tidy (H := H) (C := C) old line elsewhere) where
  harmless _ _ := trivial
  log _ h := ⟨h.since, h.token, h.alone⟩
  tick h := ⟨h.since, h.token, h.alone⟩
  bytes := steady_owned (fun _ h => ⟨h.since, h.token, h.alone⟩) (fun _ howns h => h.act _ (.inr howns))
    (fun _ _ howns h => h.act _ (.inr howns)) fun _ howns h => h.act _ (.inr howns)
  callFlush howns h := h.act _ (.inr howns)
  callDrive _ howns h := h.act _ (.inr howns)
  took howns hheld h := by
    obtain ⟨⟨events, hhistory, -⟩, htoken, -⟩ := h
    rw [howns, Bool.false_or, hheld] at htoken
    exact ⟨⟨.took :: events, congrArg (Event.took :: ·) hhistory, fun hno => nomatch hno⟩, rfl,
      fun _ => htoken.symm⟩
  closed howns h hrun := h.closed howns (reaches_deselect _ _ _ hrun)
  speed _ h := ⟨h.since, h.token, h.alone⟩
  binding _ _ h := ⟨h.since, h.token, h.alone⟩
  board _ h := ⟨h.since, h.token, h.alone⟩
  transfer htransfer h := h.act _ (.inl htransfer)

end ChannelM

/-! ## Racks -/

section Racks

open ChannelM

variable {H C : Type}

namespace Rack

/-- Whether the device at a place owns the bus; there is none where a device was taken out. -/
def owns (rack : Rack H C) (place : Nat) : Bool :=
  (rack.device? place).any fun device => device.link.owns

/-- Whether a device at another place owns the bus. -/
def elsewhere (rack : Rack H C) (place : Nat) : Bool :=
  rack.env.bus.held && !rack.owns place

theorem device?_add (rack : Rack H C) (device : Device H) (place : Nat) :
    (rack.add device).device? place =
      if place = rack.devices.length then some device else rack.device? place := by
  unfold device? add
  rw [List.getElem?_append]
  split
  · rw [if_neg (by omega)]
  · by_cases hlast : place = rack.devices.length
    · rw [if_pos hlast, hlast, Nat.sub_self]
      rfl
    · rw [if_neg hlast, List.getElem?_eq_none (by rw [List.length_singleton]; omega),
        List.getElem?_eq_none (by omega)]

theorem lt_length_of_device? {rack : Rack H C} {place : Nat} {device : Device H}
    (h : rack.device? place = some device) : place < rack.devices.length := by
  by_cases hlt : place < rack.devices.length
  · exact hlt
  · rw [device?, List.getElem?_eq_none (Nat.le_of_not_lt hlt)] at h
    cases h

theorem device?_set {rack : Rack H C} {place : Nat} {device : Device H}
    (h : rack.device? place = some device) (left : Option (Device H)) (env : Env C) (other : Nat) :
    Rack.device? ⟨rack.devices.set place left, env⟩ other =
      if other = place then left else rack.device? other := by
  unfold device?
  by_cases heq : other = place
  · rw [if_pos heq, heq, List.getElem?_set_self (lt_length_of_device? h)]
    rfl
  · rw [if_neg heq, List.getElem?_set_ne (Ne.symm heq)]

theorem device?_length (rack : Rack H C) : rack.device? rack.devices.length = none := by
  rw [device?, List.getElem?_eq_none (Nat.le_refl _)]
  rfl

/-- Adding a device that has not got the bus changes no owner. -/
theorem owns_add {rack : Rack H C} {device : Device H} (howns : device.link.owns = false)
    (place : Nat) : (rack.add device).owns place = rack.owns place := by
  unfold owns
  rw [device?_add]
  split
  · rename_i hlast
    rw [hlast, device?_length]
    exact howns
  · rfl

theorem owns_set {rack : Rack H C} {place : Nat} {device : Device H}
    (h : rack.device? place = some device) (left : Option (Device H)) (env : Env C) (other : Nat) :
    Rack.owns ⟨rack.devices.set place left, env⟩ other =
      if other = place then left.any fun device => device.link.owns else rack.owns other := by
  unfold owns
  rw [device?_set h]
  split
  · rfl
  · rfl

/-- The events of an action are what the history has grown by. -/
theorem reverse_eventsSince {events earlier : List Event} {channel : Channel H}
    (h : channel.history = events ++ earlier) :
    (eventsSince earlier.length channel).reverse = events := by
  rw [eventsSince, List.reverse_reverse, h, List.length_append, Nat.add_sub_cancel, List.take_left]

theorem refusal?_none {env : Env C} {device : Device H} {action : Action H}
    (h : refusal? env device action = none) (hneeds : action.needsBus = true) :
    device.link.owns = true := by
  unfold refusal? at h
  cases howns : device.link.owns with
  | true => rfl
  | false => simp [howns, hneeds] at h

/-- Nothing is done at an empty place. -/
theorem perform_empty [Host H] [TickSource C] {rack : Rack H C} {place : Nat}
    (h : rack.device? place = none) (patience : Nat) (action : Action H) :
    rack.perform patience place action = some ({ answer := .refused .dropped }, rack) := by
  unfold perform
  rw [h]

/-- An action that is not refused runs, and the device is put back if it is not being taken out. -/
theorem perform_begun [Host H] [TickSource C] {rack : Rack H C} {place : Nat} {device : Device H}
    {action : Action H} (hdevice : rack.device? place = some device)
    (hrefusal : refusal? rack.env device action = none) (hstays : action ≠ .drop) (patience : Nat) :
    rack.perform patience place action =
      (action.run patience ⟨device, rack.env⟩).map fun (answer, session) =>
        ({ answer, events := eventsSince device.link.history.length session.device.link },
          { devices := rack.devices.set place (some session.device), env := session.env }) := by
  unfold perform
  rw [hdevice]
  dsimp only
  rw [hrefusal]
  cases action with
  | drop => exact absurd rfl hstays
  | _ => rfl

/-- What an action on a rack comes to: it is not begun, and nothing changes; or it runs, and the
    device is put back unless it was taken out. -/
theorem perform_cases [Host H] [TickSource C] {rack rack' : Rack H C} {patience place : Nat}
    {action : Action H} {outcome : Outcome}
    (hrun : rack.perform patience place action = some (outcome, rack')) :
    (rack' = rack ∧ outcome.events = []) ∨
      ∃ device answer session left, rack.device? place = some device ∧
        refusal? rack.env device action = none ∧
        action.run patience ⟨device, rack.env⟩ = some (answer, session) ∧
        outcome.events = eventsSince device.link.history.length session.device.link ∧
        (left = some session.device ∨ action = .drop ∧ left = none) ∧
        rack' = ⟨rack.devices.set place left, session.env⟩ := by
  cases hdevice : rack.device? place with
  | none =>
    rw [perform_empty hdevice] at hrun
    cases hrun
    exact .inl ⟨rfl, rfl⟩
  | some device =>
    unfold perform at hrun
    rw [hdevice] at hrun
    dsimp only at hrun
    cases hrefusal : refusal? rack.env device action with
    | some reason =>
      rw [hrefusal] at hrun
      cases hrun
      exact .inl ⟨rfl, rfl⟩
    | none =>
      rw [hrefusal] at hrun
      obtain ⟨⟨answer, session⟩, haction, heq⟩ := Option.map_eq_some_iff.mp hrun
      cases heq
      refine .inr ⟨device, answer, session, _, rfl, hrefusal, haction, rfl, ?_, rfl⟩
      cases action with
      | drop => exact .inr ⟨rfl, rfl⟩
      | _ => exact .inl rfl

end Rack

variable [Host H] [TickSource C]

/-- The racks that devices can get to, with the mask that the device of each place drove last, also
    after it was taken out. A rack starts without devices and with the token free. Devices are added
    as they are made, and then anything may be done with any of them in any order, except giving the
    bus back without shutting down; meanwhile the clock may be set, and the logger. -/
inductive Reachable : Rack H C → (Nat → UInt8) → Prop where
  | start {env : Env C} (hfree : env.bus.held = false) : Reachable (Rack.empty env) fun _ => 0
  | add {rack : Rack H C} {lines : Nat → UInt8} (h : Reachable rack lines) {device : Device H}
      (howns : device.link.owns = false) (hhistory : device.link.history = []) :
      Reachable (rack.add device) lines
  | act {rack rack' : Rack H C} {lines : Nat → UInt8} (h : Reachable rack lines)
      {patience place : Nat} {action : Action H} {outcome : Outcome}
      (hrelease : action ≠ .onChannel .release)
      (hrun : rack.perform patience place action = some (outcome, rack')) :
      Reachable rack' fun other =>
        if other = place then (lastMask outcome.events.reverse).getD (lines place) else lines other
  | setClock {rack : Rack H C} {lines : Nat → UInt8} (h : Reachable rack lines) (change : C → C) :
      Reachable (rack.setClock change) lines
  | setThreshold {rack : Rack H C} {lines : Nat → UInt8} (h : Reachable rack lines)
      (threshold : Threshold) : Reachable (rack.setThreshold threshold) lines

omit [Host H] [TickSource C] in
/-- The token is out exactly when a device owns the bus, one at most does, and a device without the
    bus has no line asserted. -/
structure Shared (rack : Rack H C) (lines : Nat → UInt8) : Prop where
  intro ::
  token : rack.env.bus.held = true ↔ ∃ place, rack.owns place = true
  single : ∀ place other, rack.owns place = true → rack.owns other = true → place = other
  parked : ∀ place, rack.owns place = false → lines place = 0

omit [Host H] [TickSource C] in
theorem shared_empty {env : Env C} (hfree : env.bus.held = false) :
    Shared (Rack.empty env : Rack H C) fun _ => 0 := by
  have hnone : ∀ place, (Rack.empty env : Rack H C).owns place = false := fun _ => rfl
  refine ⟨?_, fun place other hplace => ?_, fun _ _ => rfl⟩
  · rw [show (Rack.empty env : Rack H C).env.bus.held = false from hfree]
    constructor
    · exact fun hno => nomatch hno
    · rintro ⟨place, hplace⟩
      rw [hnone place] at hplace
      cases hplace
  · rw [hnone place] at hplace
    cases hplace

omit [Host H] [TickSource C] in
theorem Shared.add {rack : Rack H C} {lines : Nat → UInt8} (h : Shared rack lines)
    {device : Device H} (howns : device.link.owns = false) : Shared (rack.add device) lines := by
  refine ⟨?_, fun place other => ?_, fun place => ?_⟩
  · simp only [Rack.owns_add howns]
    exact h.token
  · rw [Rack.owns_add howns, Rack.owns_add howns]
    exact h.single place other
  · rw [Rack.owns_add howns]
    exact h.parked place

omit [Host H] [TickSource C] in
theorem Shared.elsewhere_iff {rack : Rack H C} {lines : Nat → UInt8} (h : Shared rack lines)
    (place : Nat) :
    rack.elsewhere place = true ↔ ∃ other, other ≠ place ∧ rack.owns other = true := by
  constructor
  · intro hout
    obtain ⟨hheld, haway⟩ := Bool.and_eq_true_iff.mp hout
    obtain ⟨other, hother⟩ := h.token.mp hheld
    refine ⟨other, fun heq => ?_, hother⟩
    rw [← heq, hother] at haway
    cases haway
  · rintro ⟨other, hne, hother⟩
    refine Bool.and_eq_true_iff.mpr ⟨h.token.mpr ⟨other, hother⟩, ?_⟩
    cases howns : rack.owns place with
    | false => rfl
    | true => exact absurd (h.single other place hother howns) hne

omit [Host H] [TickSource C] in
theorem Shared.away {rack : Rack H C} {lines : Nat → UInt8} (h : Shared rack lines) {place : Nat}
    (halone : rack.elsewhere place = false) {other : Nat} (hne : other ≠ place) :
    rack.owns other = false := by
  cases hother : rack.owns other with
  | false => rfl
  | true =>
    rw [(h.elsewhere_iff place).mpr ⟨other, hne, hother⟩] at halone
    cases halone

omit [Host H] [TickSource C] in
/-- A device of a rack in order is tidy with respect to the others. -/
theorem Shared.tidy {rack : Rack H C} {lines : Nat → UInt8} (h : Shared rack lines) {place : Nat}
    {device : Device H} (hdevice : rack.device? place = some device) :
    Tidy device.link.history (lines place) (rack.elsewhere place)
      (Session.at ⟨device, rack.env⟩ Device.link) := by
  have hwas : rack.owns place = device.link.owns := by rw [Rack.owns, hdevice]; rfl
  refine ⟨⟨[], rfl, fun haway => h.parked place (hwas.trans haway)⟩, ?_, fun howns => ?_⟩
  · show rack.env.bus.held = (device.link.owns || (rack.env.bus.held && !rack.owns place))
    rw [← hwas]
    cases howns : rack.owns place with
    | false => simp
    | true => exact h.token.mpr ⟨place, howns⟩
  · show (rack.env.bus.held && !rack.owns place) = false
    rw [hwas, show device.link.owns = true from howns]
    exact Bool.and_false _

omit [Host H] [TickSource C] in
/-- A rack stays in order when one device changes and is still tidy. -/
theorem Shared.replace {rack rack' : Rack H C} {lines : Nat → UInt8} (h : Shared rack lines)
    {place : Nat} {owner : Bool} {mask : UInt8}
    (howns : ∀ other, rack'.owns other = if other = place then owner else rack.owns other)
    (htoken : rack'.env.bus.held = (owner || rack.elsewhere place))
    (halone : owner = true → rack.elsewhere place = false) (hmask : owner = false → mask = 0) :
    Shared rack' fun other => if other = place then mask else lines other := by
  refine ⟨?_, fun one other hone hother => ?_, fun other haway => ?_⟩
  · rw [htoken, Bool.or_eq_true, h.elsewhere_iff place]
    constructor
    · rintro (howner | ⟨other, hne, hother⟩)
      · exact ⟨place, by rw [howns, if_pos rfl]; exact howner⟩
      · exact ⟨other, by rw [howns, if_neg hne]; exact hother⟩
    · rintro ⟨other, hother⟩
      rw [howns] at hother
      split at hother
      · exact .inl hother
      · exact .inr ⟨other, ‹_›, hother⟩
  · rw [howns] at hone hother
    split at hone
    · split at hother
      · exact ‹one = place›.trans ‹other = place›.symm
      · rw [h.away (halone hone) ‹_›] at hother
        cases hother
    · split at hother
      · rw [h.away (halone hother) ‹_›] at hone
        cases hone
      · exact h.single one other hone hother
  · rw [howns] at haway
    by_cases hplace : other = place
    · rw [if_pos hplace] at haway ⊢
      exact hmask haway
    · rw [if_neg hplace] at haway ⊢
      exact h.parked other haway

/-- **One action.** Whatever a device does, the others are as they were, and the token, the owner and
    the lines fit together as before. -/
theorem Shared.act {rack rack' : Rack H C} {lines : Nat → UInt8} (h : Shared rack lines)
    {patience place : Nat} {action : Action H} {outcome : Outcome}
    (hrelease : action ≠ .onChannel .release)
    (hrun : rack.perform patience place action = some (outcome, rack')) :
    Shared rack' fun other =>
      if other = place then (lastMask outcome.events.reverse).getD (lines place) else lines other := by
  rcases Rack.perform_cases hrun with ⟨rfl, hevents⟩ | ⟨device, answer, session, left, hdevice,
      hrefusal, haction, hevents, hleft, rfl⟩
  · have hsame : (fun other => if other = place then
        (lastMask outcome.events.reverse).getD (lines place) else lines other) = lines := by
      funext other
      rw [hevents]
      split
      · exact congrArg lines (Eq.symm ‹other = place›)
      · rfl
    rw [hsame]
    exact h
  · obtain ⟨⟨⟨events, hhistory, hmask⟩, htoken, halone⟩, hdropped⟩ :=
      Action.keeps_run (tidy_invariant _ _ _).toAction patience (h.tidy hdevice)
        (fun hneeds => Rack.refusal?_none hrefusal hneeds) hrelease answer session haction
    -- the device that stays behind has the bus if the session's has it
    have howner : (left.any fun device => device.link.owns) = session.device.link.owns := by
      rcases hleft with rfl | ⟨hdrop, rfl⟩
      · rfl
      · exact (hdropped hdrop).symm
    have howns := Rack.owns_set hdevice left session.env
    rw [howner] at howns
    have hnew : outcome.events.reverse = events := by
      rw [hevents]
      exact Rack.reverse_eventsSince hhistory
    rw [hnew]
    exact h.replace howns htoken halone hmask

theorem Reachable.shared {rack : Rack H C} {lines : Nat → UInt8} (h : Reachable rack lines) :
    Shared rack lines := by
  induction h with
  | start hfree => exact shared_empty hfree
  | add _ howns _ ih => exact ih.add howns
  | act _ hrelease hrun ih => exact ih.act hrelease hrun
  | setClock _ change ih => exact ⟨ih.token, ih.single, ih.parked⟩
  | setThreshold _ threshold ih => exact ⟨ih.token, ih.single, ih.parked⟩

/-- **One owner at most.** In every rack that devices can get to, the token is out exactly when there
    is one device, and only one, that owns the bus; a device without the bus drove its lines to no
    mask but zero last, so no two devices ever have lines asserted together. -/
theorem Reachable.exclusive {rack : Rack H C} {lines : Nat → UInt8} (h : Reachable rack lines) :
    (rack.env.bus.held = true ↔ ∃! place, rack.owns place = true) ∧
      (rack.env.bus.held = false → ∀ place, rack.owns place = false) ∧
      (∀ place, rack.owns place = false → lines place = 0) ∧
      ∀ place other, lines place ≠ 0 → lines other ≠ 0 → place = other := by
  have hshared := h.shared
  have howner : ∀ place, lines place ≠ 0 → rack.owns place = true := by
    intro place hasserted
    cases howns : rack.owns place with
    | true => rfl
    | false => exact absurd (hshared.parked place howns) hasserted
  refine ⟨⟨fun hheld => ?_, fun ⟨place, hplace, _⟩ => hshared.token.mpr ⟨place, hplace⟩⟩,
    fun hfree place => ?_, hshared.parked, fun place other hplace hother => ?_⟩
  · obtain ⟨place, hplace⟩ := hshared.token.mp hheld
    exact ⟨place, hplace, fun other hother => hshared.single other place hother hplace⟩
  · cases howns : rack.owns place with
    | false => rfl
    | true =>
      rw [hshared.token.mpr ⟨place, howns⟩] at hfree
      cases hfree
  · exact hshared.single place other (howner place hplace) (howner other hother)

/-- Of two fresh channels, one can take the bus. -/
theorem exclusive_obtain :
    ∃ (rack : Rack SimCard Counter) (lines : Nat → UInt8), Reachable rack lines ∧
      rack.env.bus.held = true ∧ ∃! place, rack.owns place = true := by
  let fresh : Device SimCard := .channel { host := SimCard.new .sdhc }
  let start : Rack SimCard Counter := Rack.empty { clock := { value := 0 } }
  have htwo : Reachable ((start.add fresh).add fresh) fun _ => 0 :=
    .add (.add (.start rfl) rfl rfl) rfl rfl
  obtain ⟨outcome, rack, hrun, hheld⟩ : ∃ outcome rack,
      ((start.add fresh).add fresh).perform 1 1 (.onChannel .obtain) = some (outcome, rack) ∧
        rack.env.bus.held = true := ⟨_, _, rfl, rfl⟩
  have hobtain : (.onChannel .obtain : Action SimCard) ≠ .onChannel .release := nofun
  have hreach := Reachable.act htwo hobtain hrun
  exact ⟨rack, _, hreach, hheld, (Reachable.exclusive hreach).1.mp hheld⟩

end Racks

end SpiDisk
