import SpiDisk.Proofs.Bus.Discipline
import SpiDisk.Proofs.Bus.History
import SpiDisk.Proofs.Bus.Signal

/-!
# `SpiDisk.Proofs.Bus.Deed` — signals, and who owns the bus between them

The signals on the wire do not tell when the bus was taken or given back: no card notices it. The history
of a channel does. A `Deed` is a signal or a change of hands, so that the deeds of a history say what passed
and in whose hands the bus was then, without saying how fast. Operations that only make calls on the board
leave the bus where it is, and their deeds are their signals.

## Contents
- **Deeds.** `Deed`, `deedsOf` with `deedsOf_calls` for calls only, and `signalsIn`.
- **Between two moments.** `Did` with `trans`; `Did.of_passed` and `Did.passed`, by which what is known of
  signals is known of deeds, and the other way round.
- **Operations.** `ensures_calls` for what only makes calls, `did_shutdown` with `passed_shutdown`,
  `did_obtain` and `did_select`.
-/

namespace SpiDisk

/-! ## Deeds -/

/-- Something that is done on a bus, however fast: it changes hands, or a signal passes. -/
inductive Deed where
  | took
  | gave
  | passed (signal : Signal)
  deriving DecidableEq

namespace Deed

/-- Signals that pass while the bus stays where it is. -/
def passing (signals : List Signal) : List Deed :=
  signals.map .passed

/-- An owner parts from its card and gives the bus back. -/
def leaving : List Deed :=
  passing Signal.parting ++ [.gave]

/-- A card is selected anew: whoever owns the bus leaves it first, and then the bus is taken, the lines in the
    mask are asserted and one byte is read. -/
def reselecting (mask : UInt8) (owned : Bool) (lead : UInt8) : List Deed :=
  (if owned then leaving else []) ++ .took :: passing [.drove mask, .heard lead]

/-- The signal of a deed that is one. -/
def signal? : Deed → Option Signal
  | passed signal => some signal
  | took | gave => none

theorem passing_append (signals more : List Signal) :
    passing (signals ++ more) = passing signals ++ passing more :=
  List.map_append

end Deed

/-- The signals among deeds. -/
def signalsIn (deeds : List Deed) : List Signal :=
  deeds.filterMap Deed.signal?

theorem signalsIn_append (deeds more : List Deed) :
    signalsIn (deeds ++ more) = signalsIn deeds ++ signalsIn more :=
  List.filterMap_append ..

@[simp] theorem signalsIn_passing (signals : List Signal) :
    signalsIn (Deed.passing signals) = signals := by
  induction signals with
  | nil => rfl
  | cons signal signals ih => exact congrArg (signal :: ·) ih

/-- Of an owner that leaves, a card notices that it is parted from. -/
theorem signalsIn_leaving (owned : Bool) :
    signalsIn (if owned then Deed.leaving else []) = if owned then Signal.parting else [] := by
  cases owned with
  | true => rfl
  | false => rfl

/-- The deeds of an event, oldest first. -/
def Event.deeds : Event → List Deed
  | .took => [.took]
  | .gave => [.gave]
  | event => Deed.passing event.signals

/-- The deeds of events, of which the latest comes first; the deeds are oldest first. -/
def deedsOf : List Event → List Deed
  | [] => []
  | event :: earlier => deedsOf earlier ++ event.deeds

theorem deedsOf_append (events earlier : List Event) :
    deedsOf (events ++ earlier) = deedsOf earlier ++ deedsOf events := by
  induction events with
  | nil => exact (List.append_nil _).symm
  | cons event events ih => rw [List.cons_append, deedsOf, deedsOf, ih, List.append_assoc]

theorem Event.deeds_call {event : Event} (hcall : event.isCall = true) :
    event.deeds = Deed.passing event.signals := by
  cases event with
  | took | gave => cases hcall
  | _ => rfl

/-- Calls on the board do no more than pass signals. -/
theorem deedsOf_calls {events : List Event} (hcalls : ∀ event ∈ events, event.isCall = true) :
    deedsOf events = Deed.passing (wire events) := by
  induction events with
  | nil => rfl
  | cons event events ih =>
    obtain ⟨hcall, hcalls⟩ := List.forall_mem_cons.mp hcalls
    rw [deedsOf, wire, ih hcalls, Event.deeds_call hcall, Deed.passing_append]

/-- Who owns the bus makes no difference to what passes. -/
theorem signalsIn_deedsOf (events : List Event) : signalsIn (deedsOf events) = wire events := by
  induction events with
  | nil => rfl
  | cons event events ih =>
    have hevent : signalsIn event.deeds = event.signals := by
      cases event with
      | took | gave => rfl
      | _ => exact signalsIn_passing _
    rw [deedsOf, wire, signalsIn_append, ih, hevent]

namespace ChannelM

open SessionM CardEngine

variable {H C α : Type} [TickSource C] {s s' s'' : Session (Channel H) C}

/-! ## Between two moments -/

/-- Between two moments this was done and the clock was read so often, while the channel stayed bound as it
    was. -/
structure Did (deeds : List Deed) (readings : Nat) (s s' : Session (Channel H) C) : Prop where
  deeds : ∃ events, s'.device.history = events ++ s.device.history ∧ deedsOf events = deeds
  line : s'.device.line = s.device.line
  clock : s'.env.clock = ticked readings s.env.clock

section Relation

variable {deeds more : List Deed} {readings others : Nat}

theorem Did.refl (s : Session (Channel H) C) : Did [] 0 s s :=
  ⟨⟨[], rfl, rfl⟩, rfl, rfl⟩

theorem Did.trans (h : Did deeds readings s s') (h' : Did more others s' s'') :
    Did (deeds ++ more) (readings + others) s s'' := by
  obtain ⟨⟨events, hevents, rfl⟩, hline, hclock⟩ := h
  obtain ⟨⟨events', hevents', rfl⟩, hline', hclock'⟩ := h'
  refine ⟨⟨events' ++ events, ?_, deedsOf_append events' events⟩, hline'.trans hline, ?_⟩
  · rw [hevents', hevents, List.append_assoc]
  · rw [hclock', hclock, ticked_add]

theorem Did.congr (h : Did deeds readings s s') (hdeeds : deeds = more) (hreadings : readings = others) :
    Did more others s s' := by
  subst hdeeds hreadings
  exact h

theorem Did.mask (h : Did deeds readings s s') : s'.device.mask = s.device.mask := by
  unfold Channel.mask
  rw [h.line]

/-- One change of hands. -/
theorem Did.event (event : Event) (hhistory : s'.device.history = event :: s.device.history)
    (hline : s'.device.line = s.device.line) (hclock : s'.env.clock = s.env.clock) :
    Did event.deeds 0 s s' :=
  ⟨⟨[event], hhistory, rfl⟩, hline, hclock⟩

theorem Did.passed (h : Did deeds readings s s') : Passed (signalsIn deeds) readings s s' := by
  obtain ⟨⟨events, hevents, rfl⟩, hline, hclock⟩ := h
  exact ⟨⟨events, hevents, (signalsIn_deedsOf events).symm⟩, hline, hclock⟩

end Relation

/-- Nothing but calls on the board was done since some moment, so that the bus is where it was. -/
structure Calling (old : List Event) (owned : Bool) (s : Session (Channel H) C) : Prop where
  calls : Since old (fun events => ∀ event ∈ events, event.isCall = true) s
  owns : s.device.owns = owned

/-- Where only calls were made, the signals that passed are all that was done. -/
theorem Did.of_passed {signals : List Signal} {readings : Nat} {owned : Bool}
    (h : Passed signals readings s s') (hcalling : Calling s.device.history owned s') :
    Did (Deed.passing signals) readings s s' := by
  obtain ⟨⟨events, hevents, rfl⟩, hline, hclock⟩ := h
  obtain ⟨same, hsame, hcalls⟩ := hcalling.calls
  obtain rfl : same = events := List.append_cancel_right (hsame.symm.trans hevents)
  exact ⟨⟨same, hevents, deedsOf_calls hcalls⟩, hline, hclock⟩

variable {old : List Event} {owned : Bool}

omit [TickSource C] in
theorem calling_refl (s : Session (Channel H) C) : Calling s.device.history s.device.owns s :=
  ⟨⟨[], rfl, nofun⟩, rfl⟩

omit [TickSource C] in
theorem Calling.call (event : Event) (h : Calling old owned s) (hcall : event.isCall = true)
    (hhistory : s'.device.history = event :: s.device.history)
    (howns : s'.device.owns = s.device.owns) : Calling old owned s' := by
  obtain ⟨⟨events, hevents, hcalls⟩, howned⟩ := h
  refine ⟨⟨event :: events, ?_, List.forall_mem_cons.mpr ⟨hcall, hcalls⟩⟩, howns.trans howned⟩
  rw [hhistory, hevents, List.cons_append]

/-! ## Operations -/

variable [Host H]

omit [TickSource C] in
theorem calling_steady : Steady anyFrame (Calling old owned : Session (Channel H) C → Prop) :=
  CallSteady.steady
    { log := fun _ h => ⟨h.calls.of_history rfl, h.owns⟩
      callRead := fun _ h => .call (.read _ _) h rfl rfl rfl
      callWrite := fun _ _ h => .call (.wrote _ _) h rfl rfl rfl
      callPause := fun _ h => .call (.pausedMicros _) h rfl rfl rfl }

theorem calling_timed : Timed anyFrame (Calling old owned : Session (Channel H) C → Prop) where
  toSteady := calling_steady
  tick h := ⟨h.calls.of_history rfl, h.owns⟩

omit [TickSource C] in
theorem calling_flush (h : Calling old owned s) :
    Calling old owned { s with device := (Channel.callFlush s.device).2 } :=
  .call (.flushed _) h rfl rfl rfl

omit [TickSource C] in
theorem calling_drive (mask : UInt8) (h : Calling old owned s) :
    Calling old owned { s with device := (Channel.callDrive mask s.device).2 } :=
  .call (.drove _ _) h rfl rfl rfl

omit [Host H] in
/-- **Calls only.** Of an operation that does nothing but make calls, the deeds are known from the signals,
    and it leaves the bus where it was. -/
theorem ensures_calls {action : ChannelM H C α} {post : α → Session (Channel H) C → Prop}
    (hcalls : Keeps (Calling s.device.history s.device.owns) action) (h : Ensures action s post) :
    Ensures action s fun a s' => post a s' ∧ s'.device.owns = s.device.owns ∧
      ∀ {signals : List Signal} {readings : Nat}, Passed signals readings s s' →
        Did (Deed.passing signals) readings s s' :=
  (h.and (hcalls s (calling_refl s))).mono fun _ _ ⟨hpost, hcalling⟩ =>
    ⟨hpost, hcalling.owns, fun hpassed => .of_passed hpassed hcalling⟩

omit [TickSource C] in
theorem calling_deselect : Keeps (Calling old owned) (deselect : ChannelM H C Unit) :=
  keeps_deselect calling_steady calling_flush calling_drive

/-- An owner of the bus leaves it; nobody else does anything. -/
theorem did_shutdown (s : Session (Channel H) C) :
    Ensures shutdown s fun _ s' => s'.device.owns = false ∧
      Did (if s.device.owns then Deed.leaving else []) 0 s s' := by
  refine ensures_shutdown (fun howns => ⟨howns, ?_⟩) fun howns => ?_
  · rw [howns]
    exact .refl s
  · refine (ensures_calls calling_deselect (passed_deselect s)).mono ?_
    rintro _ s₁ ⟨hpassed, hstill, hdid⟩
    have hgave : Did [.gave] 0 s₁ (given s₁) := .event .gave rfl rfl rfl
    refine ⟨hstill.trans howns, rfl, ?_⟩
    rw [howns, if_pos rfl]
    exact (hdid hpassed).trans hgave

theorem passed_shutdown (s : Session (Channel H) C) :
    Ensures shutdown s fun _ s' => s'.device.owns = false ∧
      Passed (if s.device.owns then Signal.parting else []) 0 s s' :=
  (did_shutdown s).mono fun _ _ ⟨haway, h⟩ =>
    ⟨haway, h.passed.congr (signalsIn_leaving s.device.owns) rfl⟩

omit [Host H] in
theorem did_obtain (howns : s.device.owns = false) :
    Ensures obtain s fun _ s' => s'.device.owns = true ∧ Did [.took] 0 s s' := by
  refine ensures_obtain (fun howner => ?_) fun _ _ => ⟨rfl, .event .took rfl rfl rfl⟩
  rw [howns] at howner
  cases howner

theorem did_select (s : Session (Channel H) C) :
    Ensures select s fun _ s' => s'.device.owns = s.device.owns ∧
      Did (Deed.passing [.drove s.device.mask]) 0 s s' := by
  have hselect : Keeps (Calling s.device.history s.device.owns) (select : ChannelM H C Unit) :=
    fun s h => ensures_bind (ensures_device
      (keeps_drive calling_steady calling_drive _ s h))
  exact (ensures_calls hselect (passed_select s)).mono fun _ _ ⟨hpassed, howns, hdid⟩ =>
    ⟨howns, hdid hpassed⟩

end ChannelM

end SpiDisk
