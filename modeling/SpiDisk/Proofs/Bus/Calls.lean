import SpiDisk.Proofs.Bus.Invariant

/-!
# `SpiDisk.Proofs.Bus.Calls` — what the operations of a channel do to the channel, exactly

The operations below the card engine make a fixed sequence of calls on the board, and apart from
those they only report. So the channel after one of them is the channel after these calls, whatever
the board answered; and none of the calls touches the settings of a channel.
-/

namespace SpiDisk

namespace Channel

variable {H : Type} [Host H]

/-- The channel after writing one byte: at slow speed a pause follows. -/
def wroteByte (byte : UInt8) (channel : Channel H) : Channel H :=
  let sent := (channel.callWrite [byte]).2
  match channel.speed with
  | .fast => sent
  | .slow => (sent.callPause slowPause).2

/-- The channel after de-selecting its card. -/
def parted (channel : Channel H) : Channel H :=
  ((channel.callFlush.2).callDrive 0).2.wroteByte idleByte

theorem wroteByte_kept (byte : UInt8) (channel : Channel H) :
    (channel.wroteByte byte).line = channel.line ∧ (channel.wroteByte byte).owns = channel.owns ∧
      (channel.wroteByte byte).speed = channel.speed := by
  unfold wroteByte
  cases hspeed : channel.speed with
  | fast => exact ⟨rfl, rfl, hspeed⟩
  | slow => exact ⟨rfl, rfl, hspeed⟩

theorem host_wroteByte (byte : UInt8) (channel : Channel H) :
    (channel.wroteByte byte).host = (ByteBus.write channel.host [byte]).2 ∨
      (channel.wroteByte byte).host =
        Pacer.pauseMicros (ByteBus.write channel.host [byte]).2 slowPause := by
  unfold wroteByte
  cases channel.speed with
  | fast => exact .inl rfl
  | slow => exact .inr rfl

theorem parted_kept (channel : Channel H) :
    channel.parted.line = channel.line ∧ channel.parted.owns = channel.owns ∧
      channel.parted.speed = channel.speed :=
  wroteByte_kept idleByte (channel.callFlush.2.callDrive 0).2

end Channel

namespace ChannelM

open SessionM

variable {H C : Type}

/-- `s'` is `s` with the channel replaced; the log may have grown. -/
def Reaches (s : Session (Channel H) C) (channel : Channel H) (s' : Session (Channel H) C) : Prop :=
  ∃ log, s' = ⟨channel, { s.env with log }⟩

theorem Reaches.trans {s s' s'' : Session (Channel H) C} {channel next : Channel H}
    (h : Reaches s channel s') (h' : Reaches s' next s'') : Reaches s next s'' := by
  obtain ⟨log, rfl⟩ := h
  obtain ⟨log', rfl⟩ := h'
  exact ⟨log', rfl⟩

theorem Reaches.device {s s' : Session (Channel H) C} {channel : Channel H}
    (h : Reaches s channel s') : s'.device = channel := by
  obtain ⟨log, rfl⟩ := h
  rfl

theorem Reaches.bus {s s' : Session (Channel H) C} {channel : Channel H}
    (h : Reaches s channel s') : s'.env.bus = s.env.bus := by
  obtain ⟨log, rfl⟩ := h
  rfl

theorem Reaches.clock {s s' : Session (Channel H) C} {channel : Channel H}
    (h : Reaches s channel s') : s'.env.clock = s.env.clock := by
  obtain ⟨log, rfl⟩ := h
  rfl

variable [Host H]

/-- The bytes that a read hands over: those of the board, or idle ones if the read failed. -/
def visible (bytes : List UInt8) (fault : Option Fault) : List UInt8 :=
  match fault with
  | none => bytes
  | some _ => List.replicate bytes.length idleByte

theorem reaches_shiftIn (count : Nat) (s : Session (Channel H) C) :
    Ensures (shiftIn count) s fun bytes s' =>
      let answer := Channel.callRead count s.device
      bytes = visible answer.1.1 answer.1.2 ∧ Reaches s answer.2 s' := by
  refine ensures_bind (ensures_onDevice ?_)
  dsimp only
  have hlength : (Channel.callRead count s.device).1.1.length = count :=
    ByteBus.length_read s.device.host count
  split
  · rename_i hfault
    exact ensures_pure ⟨by rw [hfault]; rfl, _, rfl⟩
  · rename_i fault hfault
    refine ensures_bind (ensures_report (ensures_pure ⟨?_, _, rfl⟩))
    rw [hfault, visible, hlength]

theorem reaches_shiftOut (bytes : List UInt8) (s : Session (Channel H) C) :
    Ensures (shiftOut bytes) s fun _ s' =>
      Reaches s (Channel.callWrite bytes s.device).2 s' := by
  refine ensures_bind (ensures_onDevice ?_)
  split
  · exact ensures_pure ⟨_, rfl⟩
  · exact ensures_report ⟨_, rfl⟩

theorem reaches_drive (mask : UInt8) (s : Session (Channel H) C) :
    Ensures (drive mask) s fun _ s' => Reaches s (Channel.callDrive mask s.device).2 s' := by
  refine ensures_bind (ensures_onDevice ?_)
  refine keeps_reportPins (J := Reaches s (Channel.callDrive mask s.device).2) ?_ _ _ ⟨_, rfl⟩
  rintro s' log ⟨log', rfl⟩
  exact ⟨log, rfl⟩

/-! ## Speed -/

theorem read_fast (count : Nat) {s : Session (Channel H) C} (h : s.device.speed = .fast) :
    read count s = shiftIn count s := by
  show (match s.device.speed with | .fast => shiftIn count | .slow => readPaced count) s = _
  rw [h]

theorem read_slow (count : Nat) {s : Session (Channel H) C} (h : s.device.speed = .slow) :
    read count s = readPaced count s := by
  show (match s.device.speed with | .fast => shiftIn count | .slow => readPaced count) s = _
  rw [h]

theorem write_fast (bytes : List UInt8) {s : Session (Channel H) C} (h : s.device.speed = .fast) :
    write bytes s = shiftOut bytes s := by
  show (match s.device.speed with | .fast => shiftOut bytes | .slow => writePaced bytes) s = _
  rw [h]

theorem write_slow (bytes : List UInt8) {s : Session (Channel H) C} (h : s.device.speed = .slow) :
    write bytes s = writePaced bytes s := by
  show (match s.device.speed with | .fast => shiftOut bytes | .slow => writePaced bytes) s = _
  rw [h]

/-! ## De-selecting -/

theorem reaches_writeByte (byte : UInt8) (s : Session (Channel H) C) :
    Ensures (write [byte]) s fun _ s' => Reaches s (s.device.wroteByte byte) s' := by
  refine ensures_bind (ensures_device ?_)
  unfold Channel.wroteByte
  cases s.device.speed with
  | fast => exact reaches_shiftOut [byte] s
  | slow =>
    refine (reaches_shiftOut [byte] s).bind ?_
    rintro _ s' ⟨log, rfl⟩
    exact ensures_bind (ensures_onDevice (ensures_pure ⟨log, rfl⟩))

/-- De-selecting is three acts: emptying the register, de-asserting the lines, and one idle byte. -/
theorem reaches_deselect (s : Session (Channel H) C) :
    Ensures deselect s fun _ s' => Reaches s s.device.parted s' := by
  have hrest : ∀ s₁, Reaches s (Channel.callFlush s.device).2 s₁ →
      Ensures (do drive 0; write [idleByte] : ChannelM H C Unit) s₁
        fun _ s' => Reaches s s.device.parted s' := by
    rintro s₁ h₁
    refine (reaches_drive 0 s₁).bind fun _ s₂ h₂ => ?_
    refine (reaches_writeByte idleByte s₂).mono fun _ s₃ h₃ => ?_
    rw [h₂.device, h₁.device] at h₃
    exact h₁.trans (h₂.trans h₃)
  refine ensures_bind (ensures_onDevice ?_)
  split
  · exact hrest _ ⟨_, rfl⟩
  · exact ensures_bind (ensures_report (hrest _ ⟨_, rfl⟩))

/-! ## Settings -/

/-- Nothing that is done on the bus changes the line of a channel, its speed, or the register of lines. -/
theorem settings_invariant [TickSource C] (P : Option Line → Speed → List Line → Prop) :
    BusInvariant anyFrame fun s : Session (Channel H) C =>
      P s.device.line s.device.speed s.env.bus.attached where
  harmless _ _ := trivial
  log _ h := h
  tick h := h
  bytes := CallSteady.steady ⟨fun _ h => h, fun _ h => h, fun _ _ h => h, fun _ h => h⟩
  callFlush _ h := h
  callDrive _ _ h := h
  took _ _ h := h
  closed {s s'} _ h hrun := by
    obtain ⟨log, rfl⟩ := reaches_deselect s () s' hrun
    obtain ⟨hline, -, hspeed⟩ := s.device.parted_kept
    show P s.device.parted.line s.device.parted.speed s.env.bus.attached
    rw [hline, hspeed]
    exact h

end ChannelM

end SpiDisk
