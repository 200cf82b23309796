import SpiDisk.Proofs.Bus.Immediate

/-!
# `SpiDisk.Proofs.Bus.Invariant` — what every exchange with a card keeps

An exchange moves bytes, reads the clock, reports, and now and then takes the bus or gives it back.
A property that each of these keeps is therefore kept by the whole card engine, whatever the board
answers. This module carries such properties through the engine once; the theorems about the bus
are instances.

Some properties speak of what was sent. They are carried through with a set of frames that may be
written: all bytes that are as long as a frame are then known to be one of those.

A command may lose the bus on its way: a card that is not ready makes it give the bus back and
answer with an idle byte. What the callers rely on is that an *answer* is proof of ownership
(`throughout_send`): every comparison of a status that lets an exchange go on is one with an answer.

The engine may wait in vain, for a token that is not given back or by a clock that does not move. The
properties that are carried through it hold then too, wherever it stands.

## Contents
- **Properties that are kept.** `Keeps`, and `Upholds` for what may not come back.
- **Frames.** `Sayable`, what may be written where only certain frames may.
- **Moving bytes.** `Steady`, the properties that reads and writes keep, with `CallSteady` for those
  that every single call keeps; `Timed`, those that also a reading of the clock keeps; `Listening`,
  those that a wait for a byte keeps.
- **Tenure.** `BusInvariant`, what taking and giving back the bus keep too.
- **The engine.** One rule for each of its operations, up to a command and its status.
-/

namespace SpiDisk

namespace Command

/-- Whether a frame with this index starts like that of a command that moves sectors. -/
def movesSectors (index : UInt8) : Bool :=
  [readSingle, readMultiple, writeSingle, writeMultiple].any fun command =>
    0x40 ||| index == 0x40 ||| command.index

/-- The command that stops a read moves no sectors itself. -/
theorem ne_stop_of_movesSectors {index : UInt8} (h : movesSectors index = true) :
    index ≠ stopTransmission.index := by
  rintro rfl
  exact absurd h (by decide)

theorem movesSectors_read (count : Nat) :
    movesSectors (if count > 1 then readMultiple else readSingle).index = true := by
  split
  · rfl
  · rfl

theorem app_read (count : Nat) : (if count > 1 then readMultiple else readSingle).app = false := by
  split
  · rfl
  · rfl

end Command

namespace ChannelM

open SessionM CardEngine

variable {H C α : Type}

/-! ## Properties that are kept -/

/-- `action` leads from sessions with `J` to sessions with `J` only. -/
def Keeps (J : Session (Channel H) C → Prop) (action : ChannelM H C α) : Prop :=
  ∀ s, J s → Ensures action s fun _ s' => J s'

/-- It does, and if it does not come back `J` holds where it stands. -/
def Upholds (J : Session (Channel H) C → Prop) (action : ChannelM H C α) : Prop :=
  ∀ s, J s → Throughout J action s fun _ s' => J s'

theorem Keeps.and {J J' : Session (Channel H) C → Prop} {action : ChannelM H C α}
    (h : Keeps J action) (h' : Keeps J' action) : Keeps (fun s => J s ∧ J' s) action :=
  fun s hs => (h s hs.1).and (h' s hs.2)

theorem Upholds.keeps {J : Session (Channel H) C → Prop} {action : ChannelM H C α}
    (h : Upholds J action) : Keeps J action :=
  fun s hs => (h s hs).back

/-- What upholds more is judged by a part of it. -/
theorem Upholds.left {J J' : Session (Channel H) C → Prop} {action : ChannelM H C α}
    (h : Upholds (fun s => J s ∧ J' s) action) (s : Session (Channel H) C) (hs : J s ∧ J' s) :
    Throughout J action s fun _ s' => J s' ∧ J' s' :=
  (h s hs).weaken fun _ => And.left

variable [Host H]

/-! ## Frames -/

/-- The bytes of a frame. -/
def frameLength : Nat := 6

/-- Bytes that may be written where of all frames only those in `F` may. -/
def Sayable (F : List UInt8 → Prop) (bytes : List UInt8) : Prop :=
  bytes.length = frameLength → F bytes

/-- Every frame may be written. -/
def anyFrame (_ : List UInt8) : Prop := True

variable {F : List UInt8 → Prop}

theorem sayable_any (bytes : List UInt8) : Sayable anyFrame bytes :=
  fun _ => trivial

theorem sayable_frame {index : UInt8} {argument : UInt32} (h : F (Command.frame index argument)) :
    Sayable F (Command.frame index argument) :=
  fun _ => h

theorem sayable_of_length {bytes : List UInt8} (h : bytes.length ≠ frameLength) : Sayable F bytes :=
  fun hlength => absurd hlength h

theorem sayable_byte (byte : UInt8) : Sayable F [byte] :=
  sayable_of_length (by simp [frameLength])

theorem sayable_check : Sayable F [idleByte, idleByte] :=
  sayable_of_length (by decide)

/-! ## Reporting -/

section Reports

variable {J : Session (Channel H) C → Prop}
  (hlog : ∀ {s : Session (Channel H) C} (log : Logger), J s → J { s with env.log := log })

include hlog

omit [Host H] in
theorem keeps_report {N : Type} [Diagnostic N] (event : N) : Keeps J (report event) :=
  fun _ h => ensures_report (hlog _ h)

omit [Host H] in
theorem keeps_reportPins (faults : List Fault) :
    Keeps J (faults.forM fun fault => report (BusNote.pinFailed fault)) := by
  induction faults with
  | nil => exact fun s h => ensures_pure h
  | cons fault rest ih =>
    intro s h
    exact (keeps_report hlog _ s h).bind fun _ s' hs' => ih s' hs'

omit [Host H] in
theorem keeps_failureOf (r1 : UInt8) : Keeps J (failureOf r1) := by
  intro s h
  unfold failureOf
  split
  · exact (keeps_report hlog _ s h).bind fun _ _ hs' => ensures_pure hs'
  · exact ensures_pure h

omit [Host H] in
/-- An exchange goes on only behind the status of a ready card. -/
theorem ensures_requireReady (index r1 : UInt8) {s : Session (Channel H) C} (h : J s) :
    Ensures (requireReady index r1) s fun result s' =>
      J s' ∧ (result = .ok () → r1 = R1.ready) := by
  unfold requireReady
  split
  · exact ensures_pure ⟨h, fun _ => ‹_›⟩
  · refine (keeps_report hlog _ s h).bind fun _ s₁ h₁ => ?_
    refine (keeps_failureOf hlog r1 s₁ h₁).bind fun error s₂ h₂ => ensures_pure ⟨h₂, ?_⟩
    exact fun hok => nomatch hok

omit [Host H] in
theorem keeps_requireSize (size : Except Csd.SizeFault α) : Keeps J (requireSize size) := by
  intro s h
  cases size with
  | ok value => exact ensures_pure h
  | error fault => exact (keeps_report hlog _ s h).bind fun _ _ hs' => ensures_pure hs'

end Reports

/-! ## Moving bytes -/

/-- A property that moving bytes keeps, as long as no other frames are written, and reporting. -/
structure Steady (F : List UInt8 → Prop) (J : Session (Channel H) C → Prop) : Prop where
  log : ∀ {s} (log : Logger), J s → J { s with env.log := log }
  read : ∀ count, Keeps J (read count)
  write : ∀ bytes, Sayable F bytes → Keeps J (write bytes)

/-- A property that every single call that moves bytes keeps, and the pause behind a slow one. -/
structure CallSteady (F : List UInt8 → Prop) (J : Session (Channel H) C → Prop) : Prop where
  log : ∀ {s} (log : Logger), J s → J { s with env.log := log }
  callRead : ∀ {s} count, J s → J { s with device := (Channel.callRead count s.device).2 }
  callWrite : ∀ {s} bytes, Sayable F bytes → J s →
    J { s with device := (Channel.callWrite bytes s.device).2 }
  callPause : ∀ {s} us, J s → J { s with device := (Channel.callPause us s.device).2 }

section Bytes

variable {J J' : Session (Channel H) C → Prop}

theorem CallSteady.keeps_shiftIn (hJ : CallSteady F J) (count : Nat) : Keeps J (shiftIn count) := by
  intro s h
  refine ensures_bind (ensures_onDevice ?_)
  dsimp only
  split
  · exact ensures_pure (hJ.callRead count h)
  · exact ensures_bind (ensures_report (ensures_pure (hJ.log _ (hJ.callRead count h))))

theorem CallSteady.keeps_shiftOut (hJ : CallSteady F J) {bytes : List UInt8}
    (hsay : Sayable F bytes) : Keeps J (shiftOut bytes) := by
  intro s h
  refine ensures_bind (ensures_onDevice ?_)
  split
  · exact ensures_pure (hJ.callWrite bytes hsay h)
  · exact ensures_report (hJ.log _ (hJ.callWrite bytes hsay h))

theorem CallSteady.keeps_readPaced (hJ : CallSteady F J) (count : Nat) :
    Keeps J (readPaced count) := by
  induction count with
  | zero => exact fun s h => ensures_pure h
  | succ count ih =>
    intro s h
    refine (hJ.keeps_shiftIn 1 s h).bind fun byte s' hs' => ?_
    refine ensures_bind (ensures_onDevice ?_)
    exact (ih _ (hJ.callPause _ hs')).bind fun rest s'' hs'' => ensures_pure hs''

theorem CallSteady.keeps_writePaced (hJ : CallSteady F J) (bytes : List UInt8) :
    Keeps J (writePaced bytes) := by
  induction bytes with
  | nil => exact fun s h => ensures_pure h
  | cons byte rest ih =>
    intro s h
    refine (hJ.keeps_shiftOut (sayable_byte byte) s h).bind fun _ s' hs' => ?_
    refine ensures_bind (ensures_onDevice ?_)
    exact ih _ (hJ.callPause _ hs')

/-- What every single call keeps, moving bytes keeps at either speed. -/
theorem CallSteady.steady (hJ : CallSteady F J) : Steady F J where
  log := hJ.log
  read count := by
    intro s h
    refine ensures_bind (ensures_device ?_)
    cases s.device.speed with
    | fast => exact hJ.keeps_shiftIn count s h
    | slow => exact hJ.keeps_readPaced count s h
  write bytes hsay := by
    intro s h
    refine ensures_bind (ensures_device ?_)
    cases s.device.speed with
    | fast => exact hJ.keeps_shiftOut hsay s h
    | slow => exact hJ.keeps_writePaced bytes s h

theorem Steady.and (hJ : Steady F J) (hJ' : Steady F J') : Steady F fun s => J s ∧ J' s where
  log log h := ⟨hJ.log log h.1, hJ'.log log h.2⟩
  read count := (hJ.read count).and (hJ'.read count)
  write bytes hsay := (hJ.write bytes hsay).and (hJ'.write bytes hsay)

theorem Steady.congr (hJ : Steady F J) (h : ∀ s, J s ↔ J' s) : Steady F J' :=
  (funext fun s => propext (h s) : J = J') ▸ hJ

theorem keeps_readByte (hJ : Steady F J) : Keeps J (readByte : ChannelM H C UInt8) :=
  fun s h => (hJ.read 1 s h).bind fun _ _ hs' => ensures_pure hs'

theorem keeps_write (hJ : Steady F J) {bytes : List UInt8} (hsay : Sayable F bytes) :
    Keeps J (write bytes) :=
  hJ.write bytes hsay

theorem keeps_awaitResponse (hJ : Steady F J) (polls : Nat) :
    Keeps J (awaitResponse polls : ChannelM H C UInt8) := by
  induction polls with
  | zero => exact fun s h => ensures_pure h
  | succ polls ih =>
    intro s h
    refine (keeps_readByte hJ s h).bind fun byte s' hs' => ?_
    split
    · exact ensures_pure hs'
    · split
      · exact ensures_pure hs'
      · exact ih s' hs'

theorem keeps_exchangeFrame (hJ : Steady F J) {index : UInt8} {argument : UInt32}
    (hframe : F (Command.frame index argument)) : Keeps J (exchangeFrame index argument) := by
  intro s h
  refine (keeps_report hJ.log _ s h).bind fun _ s₁ h₁ => ?_
  refine (keeps_write hJ (sayable_frame hframe) s₁ h₁).bind fun _ s₂ h₂ => ?_
  split
  · exact (keeps_readByte hJ s₂ h₂).bind fun _ s₃ h₃ => keeps_awaitResponse hJ _ s₃ h₃
  · exact keeps_awaitResponse hJ _ s₂ h₂

theorem keeps_readWord (hJ : Steady F J) : Keeps J (readWord : ChannelM H C UInt32) :=
  fun s h => (hJ.read 4 s h).bind fun _ _ hs' => ensures_pure hs'

theorem keeps_drive (hJ : Steady F J) (hdrive : ∀ {s : Session (Channel H) C} mask, J s →
    J { s with device := (Channel.callDrive mask s.device).2 }) (mask : UInt8) :
    Keeps J (drive mask) := by
  intro s h
  refine ensures_bind (ensures_onDevice ?_)
  exact keeps_reportPins hJ.log _ _ (hdrive mask h)

/-- What moving bytes keeps and driving lines and emptying the register, a de-selection keeps. -/
theorem keeps_deselect (hJ : Steady F J)
    (hflush : ∀ {s : Session (Channel H) C}, J s →
      J { s with device := (Channel.callFlush s.device).2 })
    (hdrive : ∀ {s : Session (Channel H) C} mask, J s →
      J { s with device := (Channel.callDrive mask s.device).2 }) :
    Keeps J (deselect : ChannelM H C Unit) := by
  intro s h
  have hrest : Keeps J (do drive 0; write [idleByte] : ChannelM H C Unit) := fun s h =>
    (keeps_drive hJ hdrive 0 s h).bind fun _ s' hs' => keeps_write hJ (sayable_byte idleByte) s' hs'
  refine ensures_bind (ensures_onDevice ?_)
  split
  · exact hrest _ (hflush h)
  · exact (keeps_report hJ.log _ _ (hflush h)).bind fun _ s' hs' => hrest s' hs'

end Bytes

variable [TickSource C]

/-- A property that a reading of the clock keeps too. -/
structure Timed (F : List UInt8 → Prop) (J : Session (Channel H) C → Prop) : Prop
    extends Steady F J where
  tick : ∀ {s}, J s → J { s with env.clock := (TickSource.now s.env.clock).2 }

/-- A property that listening for a byte keeps: reading one, and looking at the clock. -/
structure Listening (J : Session (Channel H) C → Prop) : Prop where
  read : Keeps J readByte
  tick : ∀ {s}, J s → J { s with env.clock := (TickSource.now s.env.clock).2 }

/-- Moving bytes leaves the bus to whoever has it. -/
theorem owned_timed (owned : Bool) :
    Timed F fun s : Session (Channel H) C => s.device.owns = owned where
  toSteady := CallSteady.steady ⟨fun _ h => h, fun _ h => h, fun _ _ h => h, fun _ h => h⟩
  tick h := h

section Waits

variable {J : Session (Channel H) C → Prop}

theorem keeps_startDeadline (hJ : Timed F J) (ms : UInt32) : Keeps J (startDeadline ms) :=
  fun _ h => ensures_startDeadline (hJ.tick h)

theorem Timed.listening (hJ : Timed F J) : Listening J where
  read := keeps_readByte hJ.toSteady
  tick := hJ.tick

/-- A wait for a byte. -/
theorem Listening.upholds_pollUntil (hJ : Listening J) (deadline : Deadline)
    (accept : UInt8 → Option α) (patience : Nat) :
    Upholds J (pollUntil deadline (do
      let byte ← readByte
      pure (accept byte)) patience : ChannelM H C (Option α)) := by
  intro s h
  refine throughout_pollUntil (P := J) (fun _ hs => hs) (fun s h => ?_) patience h
  refine (hJ.read s h).whole.bind fun byte s' hs' => throughout_pure ?_
  cases accept byte with
  | some a => exact hs'
  | none =>
    dsimp only
    split
    · exact hJ.tick hs'
    · exact hJ.tick hs'

theorem Listening.upholds_waitReady (hJ : Listening J) (patience : Nat) :
    Upholds J (waitReady patience : ChannelM H C Bool) := by
  intro s h
  refine throughout_bind (ensures_startDeadline ?_)
  exact (hJ.upholds_pollUntil _ _ patience _ (hJ.tick h)).bind fun _ _ hs' => throughout_pure hs'

/-- Whoever waits for a block stands where bytes are listened to. -/
theorem Listening.throughout_receiveBlock (hJ : Listening J) (patience count : Nat)
    {s : Session (Channel H) C} (h : J s) :
    Throughout J (receiveBlock patience count) s fun _ _ => True := by
  refine throughout_bind (ensures_startDeadline ?_)
  refine (hJ.upholds_pollUntil _ _ patience _ (hJ.tick h)).bind ?_
  rintro (_ | token) s₁ -
  · exact throughout_bind (ensures_any fun _ _ => throughout_pure trivial)
  · dsimp only
    split
    · refine throughout_bind (ensures_any fun bytes s₂ => ?_)
      exact throughout_bind (ensures_any fun _ _ => throughout_pure trivial)
    · exact throughout_bind (ensures_any fun _ _ => throughout_pure trivial)

theorem upholds_waitReady (hJ : Timed F J) (patience : Nat) :
    Upholds J (waitReady patience : ChannelM H C Bool) :=
  hJ.listening.upholds_waitReady patience

theorem upholds_receiveBlock (hJ : Timed F J) (patience count : Nat) :
    Upholds J (receiveBlock patience count : ChannelM H C (Except CardError (List UInt8))) := by
  intro s h
  refine (keeps_startDeadline hJ _ s h).whole.bind fun deadline s₁ h₁ => ?_
  refine (hJ.listening.upholds_pollUntil deadline _ patience s₁ h₁).bind ?_
  rintro (_ | token) s₂ h₂
  · exact (keeps_report hJ.log _ s₂ h₂).whole.bind fun _ _ hs' => throughout_pure hs'
  · dsimp only
    split
    · refine (hJ.read count s₂ h₂).whole.bind fun bytes s₃ h₃ => ?_
      exact (hJ.read 2 s₃ h₃).whole.bind fun _ _ hs' => throughout_pure hs'
    · exact (keeps_report hJ.log _ s₂ h₂).whole.bind fun _ _ hs' => throughout_pure hs'

theorem upholds_receiveBlocks (hJ : Timed F J) (patience count : Nat) :
    Upholds J (receiveBlocks patience count :
      ChannelM H C (List (List UInt8) × Except CardError Unit)) := by
  induction count with
  | zero => exact fun s h => throughout_pure h
  | succ count ih =>
    intro s h
    refine (upholds_receiveBlock hJ patience sectorSize s h).bind ?_
    rintro (error | block) s₁ h₁
    · exact throughout_pure h₁
    · exact (ih s₁ h₁).bind fun _ _ hs' => throughout_pure hs'

theorem upholds_readyFor (hJ : Timed F J) (patience : Nat) (token : UInt8) :
    Upholds J (readyFor patience token : ChannelM H C Bool) := by
  intro s h
  refine (upholds_waitReady hJ patience s h).bind fun ready s₁ h₁ => ?_
  split
  · exact throughout_pure h₁
  · exact (keeps_report hJ.log _ s₁ h₁).whole.bind fun _ _ hs' => throughout_pure hs'

theorem upholds_transmitBlock (hJ : Timed F J) (patience : Nat) (token : UInt8)
    {bytes : List UInt8} (hsay : Sayable F bytes) :
    Upholds J (transmitBlock patience token bytes : ChannelM H C (Except CardError Unit)) := by
  intro s h
  refine (upholds_readyFor hJ patience token s h).bind fun ready s₁ h₁ => ?_
  split
  · refine (hJ.write _ (sayable_byte token) s₁ h₁).whole.bind fun _ s₂ h₂ => ?_
    refine (hJ.write _ hsay s₂ h₂).whole.bind fun _ s₃ h₃ => ?_
    refine (hJ.write _ sayable_check s₃ h₃).whole.bind fun _ s₄ h₄ => ?_
    refine (keeps_readByte hJ.toSteady s₄ h₄).whole.bind fun response s₅ h₅ => ?_
    split
    · exact throughout_pure h₅
    · exact (keeps_report hJ.log _ s₅ h₅).whole.bind fun _ _ hs' => throughout_pure hs'
  · exact throughout_pure h₁

theorem upholds_transmitBlocks (hJ : Timed F J) (patience : Nat) {blocks : List (List UInt8)}
    (hsay : ∀ block ∈ blocks, Sayable F block) :
    Upholds J (transmitBlocks patience blocks : ChannelM H C (Except CardError Unit)) := by
  induction blocks with
  | nil => exact fun s h => throughout_pure h
  | cons block rest ih =>
    intro s h
    refine (upholds_transmitBlock hJ patience _ (hsay block (List.mem_cons_self ..)) s h).bind ?_
    rintro (error | _) s₁ h₁
    · exact throughout_pure h₁
    · exact ih (fun other hmem => hsay other (List.mem_cons_of_mem block hmem)) s₁ h₁

theorem upholds_transmitStop (hJ : Timed F J) (patience : Nat) :
    Upholds J (transmitStop patience : ChannelM H C (Except CardError Unit)) := by
  intro s h
  refine (upholds_readyFor hJ patience _ s h).bind fun ready s₁ h₁ => ?_
  split
  · exact (hJ.write _ (sayable_byte _) s₁ h₁).whole.bind fun _ _ hs' => throughout_pure hs'
  · exact throughout_pure h₁

end Waits

/-! ## Tenure -/

omit [Host H] [TickSource C] in
/-- A channel without the bus can only take one that is free. -/
theorem ensures_obtain {s : Session (Channel H) C} {post : Unit → Session (Channel H) C → Prop}
    (howner : s.device.owns = true → post () s)
    (hfree : s.device.owns = false → s.env.bus.held = false → post () (taken s)) :
    Ensures obtain s post := by
  intro a s' hrun
  rw [obtain_apply] at hrun
  cases howns : s.device.owns with
  | true =>
    rw [if_pos howns] at hrun
    cases hrun
    exact howner howns
  | false =>
    rw [if_neg (by simp [howns])] at hrun
    cases hheld : s.env.bus.held with
    | true =>
      rw [if_pos hheld] at hrun
      cases hrun
    | false =>
      rw [if_neg (by simp [hheld])] at hrun
      cases hrun
      exact hfree howns hheld

omit [Host H] [TickSource C] in
theorem ensures_release_owner {s : Session (Channel H) C}
    {post : Unit → Session (Channel H) C → Prop} (howns : s.device.owns = true)
    (h : post () (given s)) : Ensures release s post := by
  intro a s' hrun
  rw [release_apply, if_pos howns] at hrun
  cases hrun
  exact h

omit [TickSource C] in
/-- **Shutting down.** A channel without the bus does nothing; an owner de-selects its card and
    gives the bus back. -/
theorem ensures_shutdown {s : Session (Channel H) C}
    {post : Unit → Session (Channel H) C → Prop} (haway : s.device.owns = false → post () s)
    (howner : s.device.owns = true →
      Ensures deselect s fun _ s' => s'.device.owns = true ∧ post () (given s')) :
    Ensures shutdown s post := by
  refine ensures_bind (ensures_device ?_)
  cases howns : s.device.owns with
  | false => exact ensures_pure (haway howns)
  | true => exact (howner howns).bind fun _ s' hs' => ensures_release_owner hs'.1 hs'.2

/-- A property that the whole engine keeps, apart from commands that move sectors: moving bytes and
    driving lines do while the bus is owned, and so do taking a free bus and giving it back behind a
    de-selection. -/
structure BusInvariant (F : List UInt8 → Prop) (I : Session (Channel H) C → Prop) : Prop where
  harmless : ∀ {index} argument, Command.movesSectors index = false →
    F (Command.frame index argument)
  log : ∀ {s} (log : Logger), I s → I { s with env.log := log }
  tick : ∀ {s}, I s → I { s with env.clock := (TickSource.now s.env.clock).2 }
  bytes : Steady F fun s => I s ∧ s.device.owns = true
  callFlush : ∀ {s}, s.device.owns = true → I s → I { s with device := (Channel.callFlush s.device).2 }
  callDrive : ∀ {s} mask, s.device.owns = true → I s →
    I { s with device := (Channel.callDrive mask s.device).2 }
  took : ∀ {s}, s.device.owns = false → s.env.bus.held = false → I s → I (taken s)
  closed : ∀ {s s'}, s.device.owns = true → I s → deselect s = some ((), s') → I (given s')

variable {I J : Session (Channel H) C → Prop}

omit [TickSource C] in
/-- What every single call of an owner keeps is kept while the bus is owned. -/
theorem steady_owned (log : ∀ {s} (log : Logger), I s → I { s with env.log := log })
    (callRead : ∀ {s} count, s.device.owns = true → I s →
      I { s with device := (Channel.callRead count s.device).2 })
    (callWrite : ∀ {s} bytes, Sayable F bytes → s.device.owns = true → I s →
      I { s with device := (Channel.callWrite bytes s.device).2 })
    (callPause : ∀ {s} us, s.device.owns = true → I s →
      I { s with device := (Channel.callPause us s.device).2 }) :
    Steady F fun s => I s ∧ s.device.owns = true :=
  CallSteady.steady
    { log := fun more h => ⟨log more h.1, h.2⟩
      callRead := fun count h => ⟨callRead count h.2 h.1, h.2⟩
      callWrite := fun bytes hsay h => ⟨callWrite bytes hsay h.2 h.1, h.2⟩
      callPause := fun us h => ⟨callPause us h.2 h.1, h.2⟩ }

theorem BusInvariant.and (hI : BusInvariant F I) (hJ : BusInvariant F J) :
    BusInvariant F fun s => I s ∧ J s where
  harmless := hI.harmless
  log log h := ⟨hI.log log h.1, hJ.log log h.2⟩
  tick h := ⟨hI.tick h.1, hJ.tick h.2⟩
  bytes := (hI.bytes.and hJ.bytes).congr fun _ => and_and_right.symm
  callFlush howns h := ⟨hI.callFlush howns h.1, hJ.callFlush howns h.2⟩
  callDrive mask howns h := ⟨hI.callDrive mask howns h.1, hJ.callDrive mask howns h.2⟩
  took howns hheld h := ⟨hI.took howns hheld h.1, hJ.took howns hheld h.2⟩
  closed howns h hrun := ⟨hI.closed howns h.1 hrun, hJ.closed howns h.2 hrun⟩

/-- While the bus is owned, a bus invariant is one that moving bytes keeps. -/
theorem BusInvariant.timed (hI : BusInvariant F I) :
    Timed F fun s : Session (Channel H) C => I s ∧ s.device.owns = true where
  toSteady := hI.bytes
  tick h := ⟨hI.tick h.1, h.2⟩

theorem BusInvariant.keeps_startDeadline (hI : BusInvariant F I) (ms : UInt32) :
    Keeps I (startDeadline ms) :=
  fun _ h => ensures_startDeadline (hI.tick h)

theorem BusInvariant.keeps_select (hI : BusInvariant F I) :
    Keeps (fun s => I s ∧ s.device.owns = true) (select : ChannelM H C Unit) :=
  fun s h => ensures_bind (ensures_device (keeps_drive hI.bytes
    (fun mask h => ⟨hI.callDrive mask h.2 h.1, h.2⟩) _ s h))

theorem BusInvariant.keeps_deselect (hI : BusInvariant F I) :
    Keeps (fun s => I s ∧ s.device.owns = true) (deselect : ChannelM H C Unit) :=
  ChannelM.keeps_deselect hI.bytes (fun h => ⟨hI.callFlush h.2 h.1, h.2⟩)
    fun mask h => ⟨hI.callDrive mask h.2 h.1, h.2⟩

theorem BusInvariant.ensures_obtain (hI : BusInvariant F I) {s : Session (Channel H) C} (h : I s) :
    Ensures obtain s fun _ s' => I s' ∧ s'.device.owns = true :=
  ChannelM.ensures_obtain (fun howns => ⟨h, howns⟩) fun howns hheld => ⟨hI.took howns hheld h, rfl⟩

theorem BusInvariant.ensures_shutdown (hI : BusInvariant F I) {s : Session (Channel H) C}
    (h : I s) : Ensures shutdown s fun _ s' => I s' ∧ s'.device.owns = false := by
  refine ChannelM.ensures_shutdown (fun howns => ⟨h, howns⟩) fun howns a s' hrun => ?_
  exact ⟨(hI.keeps_deselect s ⟨h, howns⟩ a s' hrun).2, hI.closed howns h hrun, rfl⟩

/-! ## The engine -/

theorem BusInvariant.throughout_obtain (hI : BusInvariant F I) {s : Session (Channel H) C}
    (h : I s) : Throughout I obtain s fun _ s' => I s' ∧ s'.device.owns = true :=
  ChannelM.throughout_obtain (hI.ensures_obtain h) h

/-- A selected card means an owned bus, and a card that was not ready a free one. -/
theorem BusInvariant.throughout_selectCard (hI : BusInvariant F I) (patience : Nat)
    {s : Session (Channel H) C} (h : I s) :
    Throughout I (selectCard patience) s fun ready s' => I s' ∧ s'.device.owns = ready := by
  refine (hI.throughout_obtain h).bind fun _ s₁ h₁ => ?_
  refine (hI.keeps_select s₁ h₁).whole.bind fun _ s₂ h₂ => ?_
  refine (keeps_readByte hI.bytes s₂ h₂).whole.bind fun _ s₃ h₃ => ?_
  refine ((upholds_waitReady hI.timed patience).left s₃ h₃).bind fun ready s₄ h₄ => ?_
  cases ready with
  | true => exact throughout_pure h₄
  | false =>
    refine (keeps_report hI.log _ s₄ h₄.1).whole.bind fun _ s₅ h₅ => ?_
    exact (hI.ensures_shutdown h₅).whole.bind fun _ s₆ h₆ => throughout_pure h₆

/-- **An answer is proof of ownership.** Whatever the card or the board did, a command in brackets
    of its own that was answered left the bus taken. -/
theorem BusInvariant.throughout_sendPlain (hI : BusInvariant F I) (patience : Nat) {index : UInt8}
    (hindex : index ≠ Command.stopTransmission.index) {argument : UInt32}
    (hframe : F (Command.frame index argument)) {s : Session (Channel H) C} (h : I s) :
    Throughout I (sendPlain patience index argument) s fun r1 s' =>
      I s' ∧ (R1.isAnswer r1 = true → s'.device.owns = true) := by
  unfold sendPlain
  rw [if_neg hindex]
  refine (hI.ensures_shutdown h).whole.bind fun _ s₁ h₁ => ?_
  refine (hI.throughout_selectCard patience h₁.1).bind fun ready s₂ h₂ => ?_
  cases ready with
  | true =>
    refine ((keeps_exchangeFrame hI.bytes hframe s₂ h₂).mono ?_).whole
    exact fun r1 s₃ h₃ => ⟨h₃.1, fun _ => h₃.2⟩
  | false => exact throughout_pure ⟨h₂.1, fun hanswer => absurd hanswer (by decide)⟩

theorem BusInvariant.throughout_send (hI : BusInvariant F I) (patience : Nat) {command : Command}
    (hindex : command.index ≠ Command.stopTransmission.index) {argument : UInt32}
    (hframe : F (Command.frame command.index argument)) {s : Session (Channel H) C} (h : I s) :
    Throughout I (send patience command argument) s fun r1 s' =>
      I s' ∧ (R1.isAnswer r1 = true → s'.device.owns = true) := by
  unfold send
  split
  · have hnotice : F (Command.frame Command.appNotice.index 0) := hI.harmless 0 (by decide)
    refine (hI.throughout_sendPlain patience (by decide) hnotice h).bind fun notice s₁ h₁ => ?_
    split
    · exact throughout_pure h₁
    · exact hI.throughout_sendPlain patience hindex hframe h₁.1
  · exact hI.throughout_sendPlain patience hindex hframe h

/-- The stop command goes out on a bus that is owned already, and leaves it so. -/
theorem BusInvariant.keeps_sendStop (hI : BusInvariant F I) (patience : Nat) (argument : UInt32) :
    Keeps (fun s => I s ∧ s.device.owns = true)
      (send patience Command.stopTransmission argument : ChannelM H C UInt8) :=
  keeps_exchangeFrame hI.bytes (hI.harmless argument (by decide))

/-- Going on behind a status means having had an answer, hence owning the bus. -/
theorem BusInvariant.ensures_requireReady (hI : BusInvariant F I) (index : UInt8) {r1 : UInt8}
    {s : Session (Channel H) C} (h : I s ∧ (R1.isAnswer r1 = true → s.device.owns = true)) :
    Ensures (requireReady index r1) s fun result s' =>
      I s' ∧ (result = .ok () → s'.device.owns = true) := by
  refine (ChannelM.ensures_requireReady
    (J := fun s => I s ∧ (R1.isAnswer r1 = true → s.device.owns = true))
    (fun log h => ⟨hI.log log h.1, h.2⟩) index r1 h).mono fun result s' hs' => ?_
  exact ⟨hs'.1.1, fun hok => hs'.1.2 (hs'.2 hok ▸ rfl)⟩

end ChannelM

end SpiDisk
