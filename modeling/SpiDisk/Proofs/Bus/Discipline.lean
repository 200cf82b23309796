import SpiDisk.Bench.SimCard
import SpiDisk.Proofs.Bus.Calls
import SpiDisk.Proofs.Device

/-!
# `SpiDisk.Proofs.Bus.Discipline` — calls are made by the owner, and owners leave the bus clean

A transaction is an operation that a card or a disk begins without the bus and that takes it as often
as it needs to. Its events tell whether it kept to the rules of the bus: that every call on the board
was made while the bus was owned, and that the bus was given back only behind a de-selection and the
idle byte that follows it.

## Contents
- **Rules.** `holds`, `Parted` and `Disciplined`, on events with the latest first.
- **Keeping them.** `InOrder`, the bus invariant that carries them through an operation.
- **Transactions.** `Action.run_disciplined`, for every board and every clock, and for transactions that
  wait for ever.
-/

namespace SpiDisk

/-! ## Rules -/

/-- Whether an event is a call on the board. -/
def Event.isCall : Event → Bool
  | .took | .gave => false
  | _ => true

/-- Whether the bus is owned after events, latest first, that began without it. -/
def holds : List Event → Bool
  | [] => false
  | .took :: _ => true
  | .gave :: _ => false
  | _ :: earlier => holds earlier

/-- The mask that was driven last, if one was. -/
def lastMask : List Event → Option UInt8
  | [] => none
  | .drove mask _ :: _ => some mask
  | _ :: earlier => lastMask earlier

/-- **A clean parting.** The last acts are to de-assert all lines and to write one idle byte; at slow
    speed a pause follows the byte. -/
def Parted (events : List Event) : Prop :=
  ∃ pauses fault pins earlier,
    events = pauses ++ .wrote [idleByte] fault :: .drove 0 pins :: earlier ∧
      (pauses = [] ∨ pauses = [.pausedMicros slowPause])

/-- **The rules of the bus.** It is taken by one who has not got it, given back behind a clean
    parting, and whatever else is done is done by its owner. -/
def Disciplined : List Event → Prop
  | [] => True
  | .took :: earlier => holds earlier = false ∧ Disciplined earlier
  | .gave :: earlier => holds earlier = true ∧ Parted earlier ∧ Disciplined earlier
  | _ :: earlier => holds earlier = true ∧ Disciplined earlier

theorem holds_call {event : Event} (hcall : event.isCall = true) (earlier : List Event) :
    holds (event :: earlier) = holds earlier := by
  cases event <;> first | rfl | cases hcall

theorem disciplined_call {event : Event} (hcall : event.isCall = true) (earlier : List Event) :
    Disciplined (event :: earlier) ↔ holds earlier = true ∧ Disciplined earlier := by
  cases event <;> first | exact Iff.rfl | cases hcall

theorem Disciplined.tail {event : Event} {earlier : List Event}
    (h : Disciplined (event :: earlier)) : Disciplined earlier := by
  cases event with
  | took => exact h.2
  | gave => exact h.2.2
  | _ => exact h.2

/-- Every call was made while the bus was owned. -/
theorem Disciplined.holds_before {events later earlier : List Event} {call : Event}
    (h : Disciplined events) (hsplit : events = later ++ call :: earlier)
    (hcall : call.isCall = true) : holds earlier = true := by
  subst hsplit
  induction later with
  | nil => exact ((disciplined_call hcall earlier).mp h).1
  | cons event later ih => exact ih h.tail

/-- Events that end without the bus are none, or end with giving it back behind a clean parting. -/
theorem Disciplined.parted {events : List Event} (h : Disciplined events)
    (hfree : holds events = false) :
    events = [] ∨ ∃ earlier, events = .gave :: earlier ∧ Parted earlier := by
  cases events with
  | nil => exact .inl rfl
  | cons event earlier =>
    right
    by_cases hcall : event.isCall = true
    · rw [holds_call hcall, ((disciplined_call hcall earlier).mp h).1] at hfree
      cases hfree
    · cases event with
      | took => cases hfree
      | gave => exact ⟨earlier, rfl, h.2.1⟩
      | _ => exact absurd rfl hcall

/-- Behind a clean parting no line is asserted. -/
theorem Parted.lastMask_append {events : List Event} (h : Parted events) (before : List Event) :
    lastMask (events ++ before) = some 0 := by
  obtain ⟨pauses, fault, pins, earlier, rfl, rfl | rfl⟩ := h
  · rfl
  · rfl

theorem disciplined_calls {calls events : List Event} (hcalls : ∀ call ∈ calls, call.isCall = true)
    (hholds : holds events = true) (h : Disciplined events) :
    Disciplined (calls ++ events) ∧ holds (calls ++ events) = true := by
  induction calls with
  | nil => exact ⟨h, hholds⟩
  | cons call calls ih =>
    have hcall := hcalls call List.mem_cons_self
    obtain ⟨hdone, hstill⟩ := ih fun later hlater => hcalls later (List.mem_cons_of_mem call hlater)
    exact ⟨(disciplined_call hcall _).mpr ⟨hstill, hdone⟩, (holds_call hcall _).trans hstill⟩

namespace Channel

variable {H : Type} [Host H]

theorem history_wroteByte (byte : UInt8) (channel : Channel H) :
    ∃ pauses fault, (channel.wroteByte byte).history =
        pauses ++ .wrote [byte] fault :: channel.history ∧
      (pauses = [] ∨ pauses = [.pausedMicros slowPause]) := by
  unfold wroteByte
  cases channel.speed with
  | fast => exact ⟨[], _, rfl, .inl rfl⟩
  | slow => exact ⟨[.pausedMicros slowPause], _, rfl, .inr rfl⟩

/-- De-selecting a card is a clean parting. -/
theorem history_parted (channel : Channel H) :
    ∃ acts, channel.parted.history = acts ++ channel.history ∧
      (∀ earlier, Parted (acts ++ earlier)) ∧ ∀ act ∈ acts, act.isCall = true := by
  let driven := (channel.callFlush.2.callDrive 0).2
  obtain ⟨pauses, fault, hhistory, hpauses⟩ := driven.history_wroteByte idleByte
  obtain ⟨pins, flush, hdriven⟩ : ∃ pins flush,
      driven.history = [.drove 0 pins, .flushed flush] ++ channel.history := ⟨_, _, rfl⟩
  refine ⟨pauses ++ .wrote [idleByte] fault :: [.drove 0 pins, .flushed flush], ?_, ?_, ?_⟩
  · rw [List.append_assoc, List.cons_append, ← hdriven]
    exact hhistory
  · intro earlier
    exact ⟨pauses, fault, pins, .flushed flush :: earlier, by simp, hpauses⟩
  · rcases hpauses with rfl | rfl <;> simp [Event.isCall]

end Channel

/-! ## Keeping them -/

namespace ChannelM

variable {H C : Type} {old : List Event} {elsewhere : Bool}

/-- What was done since a channel had the events `old` behind it was done by the rules. While it has
    not got the bus, the token is where it was in the beginning, and a bus that another device owned
    then was not touched at all. -/
structure InOrder (old : List Event) (elsewhere : Bool) (s : Session (Channel H) C) : Prop where
  intro ::
  since : ∃ events, s.device.history = events ++ old ∧ Disciplined events ∧
    holds events = s.device.owns ∧ (elsewhere = true → events = [])
  token : s.env.bus.held = (s.device.owns || elsewhere)

/-- A call that its owner makes on the board is by the rules. -/
theorem InOrder.call {s : Session (Channel H) C} (h : InOrder old elsewhere s)
    (howns : s.device.owns = true) {event : Event} (hcall : event.isCall = true) (host : H) :
    InOrder old elsewhere { s with device := { s.device with host }.record event } := by
  obtain ⟨⟨events, hhistory, hdisciplined, hholds, hidle⟩, htoken⟩ := h
  refine ⟨⟨event :: events, congrArg (event :: ·) hhistory, ?_, ?_, ?_⟩, htoken⟩
  · exact (disciplined_call hcall events).mpr ⟨hholds.trans howns, hdisciplined⟩
  · exact (holds_call hcall events).trans hholds
  · intro helsewhere
    rw [hidle helsewhere, holds, howns] at hholds
    cases hholds

variable [Host H]

/-- De-selecting and giving the bus back is by the rules. -/
theorem InOrder.closed {s s' : Session (Channel H) C} (h : InOrder old elsewhere s)
    (howns : s.device.owns = true) (hreach : Reaches s s.device.parted s') :
    InOrder old elsewhere (given s') := by
  obtain ⟨⟨events, hhistory, hdisciplined, hholds, hidle⟩, htoken⟩ := h
  rw [howns] at hholds
  have haway : elsewhere = false := by
    cases elsewhere with
    | false => rfl
    | true =>
      rw [hidle rfl] at hholds
      cases hholds
  obtain ⟨acts, hacts, hparted, hcalls⟩ := s.device.history_parted
  refine ⟨⟨.gave :: (acts ++ events), ?_, ?_, rfl, ?_⟩, haway.symm⟩
  · have hdevice : s'.device.history = acts ++ events ++ old := by
      rw [hreach.device, hacts, hhistory, List.append_assoc]
    exact congrArg (Event.gave :: ·) hdevice
  · obtain ⟨hdone, hstill⟩ := disciplined_calls hcalls hholds hdisciplined
    exact ⟨hstill, hparted events, hdone⟩
  · rw [haway]
    exact fun hno => nomatch hno

variable [TickSource C]

/-- **Nothing breaks the rules.** Every step that an operation of a device is made of keeps them. -/
theorem inOrder_invariant (old : List Event) (elsewhere : Bool) :
    DeviceInvariant (InOrder (H := H) (C := C) old elsewhere) where
  harmless _ _ := trivial
  log _ h := ⟨h.since, h.token⟩
  tick h := ⟨h.since, h.token⟩
  bytes := steady_owned (fun _ h => ⟨h.since, h.token⟩) (fun _ howns h => h.call howns rfl _)
    (fun _ _ howns h => h.call howns rfl _) fun _ howns h => h.call howns rfl _
  callFlush howns h := h.call howns rfl _
  callDrive _ howns h := h.call howns rfl _
  took howns hheld h := by
    obtain ⟨⟨events, hhistory, hdisciplined, hholds, -⟩, htoken⟩ := h
    rw [howns, Bool.false_or, hheld] at htoken
    refine ⟨⟨.took :: events, congrArg (Event.took :: ·) hhistory, ?_, rfl, ?_⟩, rfl⟩
    · exact ⟨hholds.trans howns, hdisciplined⟩
    · rw [← htoken]
      exact fun hno => nomatch hno
  closed howns h hrun := h.closed howns (reaches_deselect _ _ _ hrun)
  speed _ h := ⟨h.since, h.token⟩
  binding _ _ h := ⟨h.since, h.token⟩

end ChannelM

/-! ## Transactions -/

namespace Action

open SessionM ChannelM

variable {H C : Type} [Host H] [TickSource C]

/-- **Transactions keep the bus in order.** Whatever the board answers and however the clock goes, a
    transaction that is begun without the bus makes every call while it owns the bus, be it that it comes
    back or that it waits for ever.

    When it comes back the channel has not got the token, no line is asserted and, if the transaction
    touched the bus at all, the last thing it did was to give it back behind a clean parting. The token is
    free then if it was free in the beginning. If it was not, then another device owns it: it still does, and
    the bus was not touched. -/
theorem run_disciplined {patience : Nat} {action : Action H}
    (haction : action.isTransaction = true) {s s' : Session (Device H) C} {answer : Option Answer}
    (howns : s.device.link.owns = false)
    (hmask : (lastMask s.device.link.history).getD 0 = 0)
    (hrun : (action.run patience).advance s = (answer, s')) :
    ∃ events, s'.device.link.history = events ++ s.device.link.history ∧
      (∀ later call earlier, events = later ++ call :: earlier → call.isCall = true →
        holds earlier = true) ∧
      (answer.isSome = true →
        (events = [] ∨ ∃ earlier, events = .gave :: earlier ∧ Parted earlier) ∧
        (lastMask s'.device.link.history).getD 0 = 0 ∧ s'.device.link.owns = false ∧
        (s.env.bus.held = false → s'.env.bus.held = false) ∧
        (s.env.bus.held = true → s'.env.bus.held = true ∧ events = [])) := by
  have hstart : InOrder s.device.link.history s.env.bus.held (s.at Device.link) := by
    refine ⟨⟨[], rfl, trivial, howns.symm, fun _ => rfl⟩, ?_⟩
    exact (congrArg (· || s.env.bus.held) howns).symm
  have hthroughout := throughout_transaction (inOrder_invariant _ _).toBinding patience haction hstart
  cases answer with
  | none =>
    obtain ⟨events, hhistory, hdisciplined, -⟩ := (hthroughout.stands s' hrun).since
    exact ⟨events, hhistory, fun _ _ _ => hdisciplined.holds_before, nofun⟩
  | some answer =>
    obtain ⟨⟨⟨events, hhistory, hdisciplined, hholds, hidle⟩, htoken⟩, haway⟩ :=
      hthroughout.back answer s' (outcome_eq_some_iff.mpr hrun)
    have hfree : s'.device.link.owns = false := haway howns
    have hheld : s'.env.bus.held = s.env.bus.held := by
      rw [show s'.env.bus.held = _ from htoken, show (s'.at Device.link).device.owns = false from hfree]
      rfl
    have hparted := hdisciplined.parted (hholds.trans hfree)
    refine ⟨events, hhistory, fun _ _ _ => hdisciplined.holds_before, fun _ => ⟨hparted, ?_, hfree,
      hheld.trans, fun helsewhere => ⟨hheld.trans helsewhere, hidle helsewhere⟩⟩⟩
    rw [show s'.device.link.history = events ++ s.device.link.history from hhistory]
    rcases hparted with rfl | ⟨earlier, rfl, hclean⟩
    · exact hmask
    · exact congrArg (Option.getD · 0) (hclean.lastMask_append _)

/-- A unit with a fresh card can be brought up, and the bus is given back cleanly. On a clock that stands
    still it waits for ever, and owns the bus meanwhile. -/
theorem run_disciplined_bringUp :
    let fresh (step : UInt8) : Session (Device SimCard) Counter :=
      ⟨.disk (Disk.new (SimCard.new .sdhc) 0 1), { clock := { value := 0, step } }⟩
    (∃ answer s' earlier, (Action.onDisk .bringUp).run 200 (fresh 1) = some (answer, s') ∧
      s'.device.link.history = .gave :: earlier ∧ Parted earlier ∧ s'.env.bus.held = false) ∧
    ∃ s', ((Action.onDisk .bringUp).run 200).advance (fresh 0) = (none, s') ∧
      s'.device.link.owns = true ∧ ∀ later call earlier,
        s'.device.link.history = later ++ call :: earlier → call.isCall = true → holds earlier = true := by
  intro fresh
  have htransaction : (onDisk .bringUp : Action SimCard).isTransaction = true := rfl
  constructor
  · have hback : ((Action.onDisk .bringUp).run 200 (fresh 1)).any
        (fun outcome => !outcome.2.device.link.history.isEmpty) = true := by decide +kernel
    obtain ⟨⟨answer, s'⟩, hrun, hbusy⟩ := (Option.any_eq_true _ _).mp hback
    obtain ⟨events, hhistory, -, hended⟩ :=
      run_disciplined htransaction rfl rfl (outcome_eq_some_iff.mp hrun)
    obtain ⟨hparted, -, -, htoken, -⟩ := hended rfl
    rw [show (fresh 1).device.link.history = [] from rfl, List.append_nil] at hhistory
    rcases hparted with rfl | ⟨earlier, rfl, hclean⟩
    · rw [hhistory] at hbusy
      cases hbusy
    · exact ⟨answer, s', earlier, hrun, hhistory, hclean, htoken rfl⟩
  · have hleft : (((Action.onDisk .bringUp).run 200).advance (fresh 0)).1.isNone = true ∧
        (((Action.onDisk .bringUp).run 200).advance (fresh 0)).2.device.link.owns = true := by
      decide +kernel
    obtain ⟨hnone, howns⟩ := hleft
    have hrun : ((Action.onDisk .bringUp).run 200).advance (fresh 0) = (none, _) :=
      Prod.ext (Option.isNone_iff_eq_none.mp hnone) rfl
    obtain ⟨events, hhistory, hcalls, -⟩ := run_disciplined htransaction rfl rfl hrun
    rw [show (fresh 0).device.link.history = [] from rfl, List.append_nil] at hhistory
    exact ⟨_, hrun, howns, hhistory ▸ hcalls⟩

end Action

end SpiDisk
