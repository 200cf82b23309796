import SpiDisk.Proofs.Bus.Invariant

/-!
# `SpiDisk.Proofs.Bus.History` — what was done since a moment

The history of a channel only grows. What is said of the events since some moment, and what no further
event can undo, is therefore kept by the whole engine; what is written may be restricted to certain
frames on the way.

## Contents
- **Since a moment.** `Since` and `since_invariant`.
- **What was written.** `Wrote`, that no other frames were written, and `Said`, that some bytes were.
-/

namespace SpiDisk

namespace Event

/-- Whether an event is no write of a frame other than those in `F`. -/
def Allowed (F : List UInt8 → Prop) : Event → Prop
  | wrote bytes _ => ChannelM.Sayable F bytes
  | _ => True

end Event

namespace ChannelM

open SessionM CardEngine

variable {H C : Type} {F : List UInt8 → Prop} {P : List Event → Prop} {old : List Event}

/-! ## Since a moment -/

/-- The events behind `old`, latest first, are as `P` says. -/
def Since (old : List Event) (P : List Event → Prop) (s : Session (Channel H) C) : Prop :=
  ∃ events, s.device.history = events ++ old ∧ P events

/-- No event that is allowed undoes what `P` says. -/
def Lasting (F : List UInt8 → Prop) (P : List Event → Prop) : Prop :=
  ∀ event events, event.Allowed F → P events → P (event :: events)

theorem Since.of_history {s s' : Session (Channel H) C} (h : Since old P s)
    (hhistory : s'.device.history = s.device.history) : Since old P s' := by
  obtain ⟨events, hevents, hP⟩ := h
  exact ⟨events, hhistory.trans hevents, hP⟩

theorem Since.cons {s s' : Session (Channel H) C} (h : Since old P s) (hlasting : Lasting F P)
    {event : Event} (hhistory : s'.device.history = event :: s.device.history)
    (hallowed : event.Allowed F) : Since old P s' := by
  obtain ⟨events, hevents, hP⟩ := h
  refine ⟨event :: events, ?_, hlasting event events hallowed hP⟩
  rw [hhistory, hevents, List.cons_append]

variable [Host H]

theorem since_steady (hlasting : Lasting F P) :
    Steady F (Since old P : Session (Channel H) C → Prop) :=
  CallSteady.steady
    { log := fun _ h => h.of_history rfl
      callRead := fun _ h => h.cons hlasting rfl trivial
      callWrite := fun _ hsay h => h.cons hlasting rfl hsay
      callPause := fun _ h => h.cons hlasting rfl trivial }

variable [TickSource C]

theorem since_timed (hlasting : Lasting F P) :
    Timed F (Since old P : Session (Channel H) C → Prop) where
  toSteady := since_steady hlasting
  tick h := h.of_history rfl

/-- **The whole engine keeps** what no allowed event undoes. -/
theorem since_invariant (hharmless : ∀ {index} argument, Command.movesSectors index = false →
    F (Command.frame index argument)) (hlasting : Lasting F P) :
    BusInvariant F (Since old P : Session (Channel H) C → Prop) where
  harmless := hharmless
  log _ h := h.of_history rfl
  tick h := h.of_history rfl
  bytes := (since_steady hlasting).and (owned_timed true).toSteady
  callFlush _ h := h.cons hlasting rfl trivial
  callDrive _ _ h := h.cons hlasting rfl trivial
  took _ _ h := h.cons hlasting rfl trivial
  closed {s s'} _ h hrun := by
    have hflush : ∀ {s : Session (Channel H) C}, Since old P s →
        Since old P { s with device := (Channel.callFlush s.device).2 } := fun h =>
      h.cons hlasting rfl trivial
    have hdrive : ∀ {s : Session (Channel H) C} mask, Since old P s →
        Since old P { s with device := (Channel.callDrive mask s.device).2 } := fun _ h =>
      h.cons hlasting rfl trivial
    have hparted : Since old P s' :=
      keeps_deselect (since_steady hlasting) hflush hdrive s h () s' hrun
    exact hparted.cons hlasting rfl trivial

/-! ## What was written -/

/-- No frames other than those in `F` were written. -/
def Wrote (F : List UInt8 → Prop) (old : List Event) : Session (Channel H) C → Prop :=
  Since old fun events => ∀ event ∈ events, event.Allowed F

/-- Some bytes were written. -/
def Said (bytes : List UInt8) (old : List Event) : Session (Channel H) C → Prop :=
  Since old fun events => ∃ fault, .wrote bytes fault ∈ events

omit [Host H] [TickSource C] in
theorem wrote_refl (s : Session (Channel H) C) : Wrote F s.device.history s :=
  ⟨[], rfl, fun _ hno => nomatch hno⟩

theorem wrote_invariant (hharmless : ∀ {index} argument, Command.movesSectors index = false →
    F (Command.frame index argument)) :
    BusInvariant F (Wrote F old : Session (Channel H) C → Prop) := by
  refine since_invariant hharmless ?_
  intro event events hallowed hevents other hmem
  rcases List.mem_cons.mp hmem with rfl | hmem
  · exact hallowed
  · exact hevents other hmem

theorem lasting_said (bytes : List UInt8) :
    Lasting anyFrame fun events => ∃ fault, Event.wrote bytes fault ∈ events := by
  rintro event events - ⟨fault, hmem⟩
  exact ⟨fault, List.mem_cons_of_mem event hmem⟩

theorem said_invariant (bytes : List UInt8) :
    BusInvariant anyFrame (Said bytes old : Session (Channel H) C → Prop) :=
  since_invariant (fun _ _ => trivial) (lasting_said bytes)

end ChannelM

end SpiDisk
