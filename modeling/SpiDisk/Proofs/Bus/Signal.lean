import SpiDisk.Proofs.Bus.Calls

/-!
# `SpiDisk.Proofs.Bus.Signal` — what passes on the wire

The history of a channel is a record of calls on a board, and how many bytes a call moves depends on the
speed. What a card notices does not: bytes that go out, bytes that come in, and lines that are driven.
`wire` reads these signals from a history. `Passed` says which of them passed between two moments and how
often the clock was read meanwhile; it composes, so that an operation's signals are those of its parts one
behind the other.

## Contents
- **Signals.** `Signal`, `wire`, and `saidIn`, the bytes among signals that went out.
- **Between two moments.** `Passed` with `refl`, `trans` and `event`.
- **Operations.** What passes while bytes are moved, the bus is taken, and a card is selected or
  de-selected.
-/

namespace SpiDisk

/-! ## Signals -/

/-- Something that passes on the wire. -/
inductive Signal where
  /-- A byte goes out. -/
  | said (byte : UInt8)
  /-- A byte comes in. -/
  | heard (byte : UInt8)
  /-- The shift register empties. -/
  | emptied
  /-- The lines in a mask are asserted, and the others are not. -/
  | drove (mask : UInt8)
  deriving DecidableEq

/-- The signals of an event, oldest first. -/
def Event.signals : Event → List Signal
  | .read bytes fault => (ChannelM.visible bytes fault).map .heard
  | .wrote bytes _ => bytes.map .said
  | .exchanged sent received fault => sent.map .said ++ (ChannelM.visible received fault).map .heard
  | .flushed _ => [.emptied]
  | .drove mask _ => [.drove mask]
  | .took | .gave | .pausedMicros _ | .pausedNanos _ => []

/-- The signals of events, of which the latest comes first; the signals are oldest first. -/
def wire : List Event → List Signal
  | [] => []
  | event :: earlier => wire earlier ++ event.signals

theorem wire_append (events earlier : List Event) :
    wire (events ++ earlier) = wire earlier ++ wire events := by
  induction events with
  | nil => exact (List.append_nil _).symm
  | cons event events ih => rw [List.cons_append, wire, wire, ih, List.append_assoc]

namespace Signal

/-- The byte of a signal that goes out. -/
def out? : Signal → Option UInt8
  | said byte => some byte
  | _ => none

/-- What a de-selection gives: the register empties, no line is asserted, and one idle byte goes out. -/
def parting : List Signal :=
  [emptied, drove 0, said idleByte]

end Signal

/-- The bytes among signals that went out. -/
def saidIn (signals : List Signal) : List UInt8 :=
  signals.filterMap Signal.out?

theorem saidIn_append (signals more : List Signal) :
    saidIn (signals ++ more) = saidIn signals ++ saidIn more :=
  List.filterMap_append ..

@[simp] theorem saidIn_said (bytes : List UInt8) : saidIn (bytes.map .said) = bytes := by
  induction bytes with
  | nil => rfl
  | cons byte bytes ih => exact congrArg (byte :: ·) ih

@[simp] theorem saidIn_heard (bytes : List UInt8) : saidIn (bytes.map .heard) = [] := by
  induction bytes with
  | nil => rfl
  | cons byte bytes ih => exact ih

namespace ChannelM

open SessionM CardEngine

variable {H C : Type}

/-! ## Between two moments -/

section Relation

variable [TickSource C] {signals more : List Signal} {readings others : Nat}
  {s s' s'' : Session (Channel H) C}

/-- Between two moments these signals passed and the clock was read so often, while the channel stayed
    bound as it was. -/
structure Passed (signals : List Signal) (readings : Nat) (s s' : Session (Channel H) C) : Prop where
  wire : ∃ events, s'.device.history = events ++ s.device.history ∧ SpiDisk.wire events = signals
  line : s'.device.line = s.device.line
  clock : s'.env.clock = ticked readings s.env.clock

theorem Passed.refl (s : Session (Channel H) C) : Passed [] 0 s s :=
  ⟨⟨[], rfl, rfl⟩, rfl, rfl⟩

theorem Passed.trans (h : Passed signals readings s s') (h' : Passed more others s' s'') :
    Passed (signals ++ more) (readings + others) s s'' := by
  obtain ⟨⟨events, hevents, rfl⟩, hline, hclock⟩ := h
  obtain ⟨⟨events', hevents', rfl⟩, hline', hclock'⟩ := h'
  refine ⟨⟨events' ++ events, ?_, wire_append events' events⟩, hline'.trans hline, ?_⟩
  · rw [hevents', hevents, List.append_assoc]
  · rw [hclock', hclock, ticked_add]

theorem Passed.mask (h : Passed signals readings s s') : s'.device.mask = s.device.mask := by
  unfold Channel.mask
  rw [h.line]

/-- One event, which changes neither the line nor the clock. -/
theorem Passed.event (event : Event) (hhistory : s'.device.history = event :: s.device.history)
    (hline : s'.device.line = s.device.line) (hclock : s'.env.clock = s.env.clock) :
    Passed event.signals 0 s s' :=
  ⟨⟨[event], hhistory, rfl⟩, hline, hclock⟩

/-- What is not seen on the channel and does not read the clock passes nothing. -/
theorem Passed.quiet (hdevice : s'.device = s.device) (hclock : s'.env.clock = s.env.clock) :
    Passed [] 0 s s' :=
  ⟨⟨[], congrArg Channel.history hdevice, rfl⟩, congrArg Channel.line hdevice, hclock⟩

/-- One reading of the clock. -/
theorem Passed.tick (s : Session (Channel H) C) :
    Passed [] 1 s { s with env.clock := (TickSource.now s.env.clock).2 } :=
  ⟨⟨[], rfl, rfl⟩, rfl, rfl⟩

theorem Passed.congr (h : Passed signals readings s s') (hsignals : signals = more)
    (hreadings : readings = others) : Passed more others s s' := by
  subst hsignals hreadings
  exact h

/-- Something quiet first, or last. -/
theorem Passed.trans_quiet (h : Passed signals readings s s') (h' : Passed [] 0 s' s'') :
    Passed signals readings s s'' :=
  (h.trans h').congr (List.append_nil _) rfl

theorem Passed.quiet_trans (h : Passed [] 0 s s') (h' : Passed signals readings s' s'') :
    Passed signals readings s s'' :=
  (h.trans h').congr rfl (Nat.zero_add _)

end Relation

/-! ## Operations -/

variable [TickSource C]

theorem passed_report {N : Type} [Diagnostic N] (event : N) (s : Session (Channel H) C) :
    Ensures (report event) s fun _ s' => Passed [] 0 s s' :=
  ensures_report (.quiet rfl rfl)

variable [Host H]

theorem passed_shiftIn (count : Nat) (s : Session (Channel H) C) :
    Ensures (shiftIn count) s fun bytes s' => bytes.length = count ∧
      Passed (bytes.map .heard) 0 s s' := by
  refine (reaches_shiftIn count s).mono ?_
  rintro _ _ ⟨rfl, log, rfl⟩
  refine ⟨?_, .event (.read _ _) rfl rfl rfl⟩
  have hlength : (Channel.callRead count s.device).1.1.length = count :=
    ByteBus.length_read s.device.host count
  unfold visible
  split
  · exact hlength
  · rw [List.length_replicate, hlength]

theorem passed_readPaced (count : Nat) (s : Session (Channel H) C) :
    Ensures (readPaced count) s fun bytes s' => bytes.length = count ∧
      Passed (bytes.map .heard) 0 s s' := by
  induction count generalizing s with
  | zero => exact ensures_pure ⟨rfl, .refl s⟩
  | succ count ih =>
    refine (passed_shiftIn 1 s).bind ?_
    rintro byte s₁ ⟨hbyte, h₁⟩
    refine ensures_bind (ensures_onDevice ((ih _).bind ?_))
    rintro rest s₂ ⟨hrest, h₂⟩
    refine ensures_pure ⟨by rw [List.length_append, hbyte, hrest, Nat.add_comm], ?_⟩
    have hpause : Passed [] 0 s₁ { s₁ with device := (s₁.device.callPause slowPause).2 } :=
      .event (.pausedMicros slowPause) rfl rfl rfl
    rw [List.map_append]
    exact h₁.trans (hpause.quiet_trans h₂)

/-- Bytes that are read are heard, at either speed. -/
theorem passed_read (count : Nat) (s : Session (Channel H) C) :
    Ensures (read count) s fun bytes s' => bytes.length = count ∧
      Passed (bytes.map .heard) 0 s s' := by
  refine ensures_bind (ensures_device ?_)
  cases s.device.speed with
  | fast => exact passed_shiftIn count s
  | slow => exact passed_readPaced count s

theorem passed_readByte (s : Session (Channel H) C) :
    Ensures readByte s fun byte s' => Passed [.heard byte] 0 s s' := by
  refine (passed_read 1 s).bind ?_
  rintro bytes s' ⟨hlength, hs'⟩
  obtain ⟨byte, rfl⟩ := List.length_eq_one_iff.mp hlength
  exact ensures_pure hs'

theorem passed_shiftOut (bytes : List UInt8) (s : Session (Channel H) C) :
    Ensures (shiftOut bytes) s fun _ s' => Passed (bytes.map .said) 0 s s' := by
  refine (reaches_shiftOut bytes s).mono ?_
  rintro _ _ ⟨log, rfl⟩
  exact .event (.wrote bytes _) rfl rfl rfl

theorem passed_writePaced (bytes : List UInt8) (s : Session (Channel H) C) :
    Ensures (writePaced bytes) s fun _ s' => Passed (bytes.map .said) 0 s s' := by
  induction bytes generalizing s with
  | nil => exact ensures_pure (.refl s)
  | cons byte rest ih =>
    refine (passed_shiftOut [byte] s).bind fun _ s₁ h₁ => ?_
    refine ensures_bind (ensures_onDevice ((ih _).mono fun _ s₂ h₂ => ?_))
    have hpause : Passed [] 0 s₁ { s₁ with device := (s₁.device.callPause slowPause).2 } :=
      .event (.pausedMicros slowPause) rfl rfl rfl
    exact h₁.trans (hpause.quiet_trans h₂)

/-- Bytes that are written are said, at either speed. -/
theorem passed_write (bytes : List UInt8) (s : Session (Channel H) C) :
    Ensures (write bytes) s fun _ s' => Passed (bytes.map .said) 0 s s' := by
  refine ensures_bind (ensures_device ?_)
  cases s.device.speed with
  | fast => exact passed_shiftOut bytes s
  | slow => exact passed_writePaced bytes s

theorem passed_drive (mask : UInt8) (s : Session (Channel H) C) :
    Ensures (drive mask) s fun _ s' => Passed [.drove mask] 0 s s' := by
  refine (reaches_drive mask s).mono ?_
  rintro _ _ ⟨log, rfl⟩
  exact .event (.drove mask _) rfl rfl rfl

theorem passed_deselect (s : Session (Channel H) C) :
    Ensures deselect s fun _ s' => Passed Signal.parting 0 s s' := by
  have hrest : ∀ s₁, Passed [.emptied] 0 s s₁ →
      Ensures (do drive 0; write [idleByte] : ChannelM H C Unit) s₁
        fun _ s' => Passed Signal.parting 0 s s' := by
    intro s₁ h₁
    refine (passed_drive 0 s₁).bind fun _ s₂ h₂ => ?_
    exact (passed_write [idleByte] s₂).mono fun _ s₃ h₃ => h₁.trans (h₂.trans h₃)
  refine ensures_bind (ensures_onDevice ?_)
  have hflush : ∀ log, Passed [.emptied] 0 s
      { s with device := (Channel.callFlush s.device).2, env.log := log } :=
    fun _ => .event (.flushed _) rfl rfl rfl
  split
  · exact hrest _ (hflush s.env.log)
  · exact ensures_bind (ensures_report (hrest _ (hflush _)))

omit [Host H] in
theorem passed_obtain (s : Session (Channel H) C) :
    Ensures obtain s fun _ s' => s'.device.owns = true ∧ Passed [] 0 s s' :=
  ensures_obtain (fun howns => ⟨howns, .refl s⟩) fun _ _ => ⟨rfl, .event .took rfl rfl rfl⟩

/-- A selection asserts the channel's line. -/
theorem passed_select (s : Session (Channel H) C) :
    Ensures select s fun _ s' => Passed [.drove s.device.mask] 0 s s' :=
  ensures_bind (ensures_device (passed_drive _ s))

end ChannelM

end SpiDisk
