import SpiDisk.Proofs.Bus.Invariant
import SpiDisk.Proofs.Card.Address

/-!
# `SpiDisk.Proofs.Card.Tenure` — what identification and transfers keep

A bus invariant goes through identification and through the transfer of sectors, be it that they come
back or that they wait for ever, and a transfer that comes back leaves the bus free.

## Contents
- **Identification.** `BusInvariant.upholds_identify` and its steps; `throughout_pollReady_of_tick`, for
  what the wait for a card keeps.
- **Transfers.** `BusInvariant.throughout_readSectors` and `BusInvariant.throughout_writeSectors`.
- **Lines.** `ensures_unbind` and `ensures_take`, and what they keep.
-/

namespace SpiDisk

namespace ChannelM

open SessionM CardEngine

variable {H C α : Type} [Host H] [TickSource C] {F : List UInt8 → Prop}
  {I : Session (Channel H) C → Prop}

/-! ## Identification -/

theorem BusInvariant.upholds_waitMillis (hI : BusInvariant F I) (patience : Nat) (ms : UInt32) :
    Upholds I (waitMillis patience ms) :=
  fun s h => throughout_waitMillis (P := fun clock => I { s with env.clock := clock })
    (fun _ hclock => hI.tick hclock) h (fun _ hclock => hclock) h

theorem BusInvariant.upholds_powerUp (hI : BusInvariant F I) (patience : Nat) :
    Upholds I (powerUp patience) := by
  intro s h
  refine (hI.throughout_obtain h).bind fun _ s₁ h₁ => ?_
  refine (hI.keeps_deselect s₁ h₁).whole.bind fun _ s₂ h₂ => ?_
  have hidle : Sayable F (List.replicate powerUpBytes idleByte) := sayable_of_length (by decide)
  refine (keeps_write hI.bytes hidle s₂ h₂).whole.bind fun _ s₃ h₃ => ?_
  exact hI.upholds_waitMillis patience _ s₃ h₃.1

theorem BusInvariant.upholds_resetCard (hI : BusInvariant F I) (patience : Nat) :
    Upholds I (resetCard patience) := by
  intro s h
  refine (hI.upholds_powerUp patience s h).bind fun _ s₁ h₁ => ?_
  refine (keeps_report hI.log _ s₁ h₁).whole.bind fun _ s₂ h₂ => ?_
  refine (hI.throughout_send patience (by decide) (hI.harmless 0 (by decide)) h₂).bind fun r1 s₃ h₃ => ?_
  split
  · exact throughout_pure h₃.1
  · exact (keeps_report hI.log _ s₃ h₃.1).whole.bind fun _ _ hs' => throughout_pure hs'

/-- **The wait for a card,** where the deadline makes no difference: what every vain attempt keeps is
    kept until one finds the card ready. -/
theorem throughout_pollReady_of_tick {J P Q : Session (Channel H) C → Prop} {patience : Nat}
    {command : Command} {argument : UInt32} {deadline : Deadline} {s : Session (Channel H) C}
    (hstands : ∀ s, P s → J s)
    (htick : ∀ s, P s → P { s with env.clock := (TickSource.now s.env.clock).2 })
    (hlog : ∀ {s : Session (Channel H) C} (log : Logger), P s → P { s with env.log := log })
    (hsend : ∀ s, P s → Throughout J (send patience command argument) s fun r1 s' =>
      if r1 = R1.ready then Q s' else P s')
    (h : P s) :
    Throughout J (pollReady patience command argument deadline) s fun
      | .ok _, s' => Q s'
      | .error _, s' => P s' := by
  refine throughout_pollReady hstands (fun s h => (hsend s h).mono fun r1 s' hs' => ?_)
    (fun _ => hlog _) h
  rw [ite_self]
  by_cases hready : r1 = R1.ready
  · rw [if_pos hready] at hs' ⊢
    exact hs'
  · rw [if_neg hready] at hs' ⊢
    exact htick s' hs'

theorem BusInvariant.upholds_pollReady (hI : BusInvariant F I) (patience : Nat) {command : Command}
    (hindex : command.index ≠ Command.stopTransmission.index)
    (hmoves : Command.movesSectors command.index = false) (argument : UInt32) (deadline : Deadline) :
    Upholds I (pollReady patience command argument deadline) := by
  intro s h
  refine (throughout_pollReady_of_tick (P := I) (Q := I) (fun _ hs => hs) (fun _ => hI.tick) hI.log
    ?_ h).mono ?_
  · intro s h
    refine (hI.throughout_send patience hindex (hI.harmless argument hmoves) h).mono
      fun r1 s' hs' => ?_
    rw [ite_self]
    exact hs'.1
  · rintro (_ | _) s' hs'
    · exact hs'
    · exact hs'

/-- A register is asked for only over a bus that the answer proves to be owned. -/
theorem BusInvariant.upholds_readRegister (hI : BusInvariant F I) (patience : Nat)
    {command : Command} (hindex : command.index ≠ Command.stopTransmission.index)
    (hmoves : Command.movesSectors command.index = false) :
    Upholds I (readRegister patience command).run := by
  intro s h
  refine throughout_course_bind (throughout_step ?_)
  refine (hI.throughout_send patience hindex (hI.harmless 0 hmoves) h).mono fun r1 s₁ h₁ => ?_
  refine throughout_course_bind (throughout_attempt ?_)
  refine (hI.ensures_requireReady command.index h₁).whole.mono ?_
  rintro (error | _) s₂ ⟨h₂, howns⟩
  · exact h₂
  refine throughout_course_bind (throughout_attempt ?_)
  refine ((upholds_receiveBlock hI.timed patience registerSize).left s₂ ⟨h₂, howns rfl⟩).mono ?_
  rintro (error | bytes) s₃ h₃
  · exact h₃.1
  refine throughout_course_bind (throughout_step ?_)
  exact (keeps_report hI.log _ s₃ h₃.1).whole.mono fun _ s₄ h₄ => throughout_course_pure h₄

theorem BusInvariant.upholds_echoesInterface (hI : BusInvariant F I) (patience : Nat) :
    Upholds I (echoesInterface patience) := by
  intro s h
  refine (hI.throughout_send patience (by decide) (hI.harmless _ (by decide)) h).bind fun r1 s₁ h₁ => ?_
  split
  · have howns : s₁.device.owns = true := h₁.2 (‹r1 = R1.idle› ▸ rfl)
    exact (keeps_readWord hI.bytes s₁ ⟨h₁.1, howns⟩).whole.bind fun _ _ hs' =>
      throughout_pure hs'.1
  · exact throughout_pure h₁.1

theorem BusInvariant.upholds_identifyVersion2 (hI : BusInvariant F I) (patience : Nat)
    (deadline : Deadline) : Upholds I (identifyVersion2 patience deadline).run := by
  intro s h
  refine throughout_course_bind (throughout_step ?_)
  refine (keeps_report hI.log _ s h).whole.mono fun _ s₁ h₁ => ?_
  refine throughout_course_bind (throughout_attempt ?_)
  refine (hI.upholds_pollReady patience (by decide) (by decide) _ deadline s₁ h₁).mono ?_
  rintro (error | _) s₂ h₂
  · exact h₂
  refine throughout_course_bind (throughout_step ?_)
  refine (hI.throughout_send patience (by decide) (hI.harmless 0 (by decide)) h₂).mono fun r1 s₃ h₃ => ?_
  refine throughout_course_bind (throughout_attempt ?_)
  refine (hI.ensures_requireReady _ h₃).whole.mono ?_
  rintro (error | _) s₄ ⟨h₄, howns⟩
  · exact h₄
  refine throughout_course_bind (throughout_step ?_)
  refine (keeps_readWord hI.bytes s₄ ⟨h₄, howns rfl⟩).whole.mono fun ocr s₅ h₅ => ?_
  refine throughout_course_bind (throughout_step ?_)
  exact (keeps_report hI.log _ s₅ h₅.1).whole.mono fun _ s₆ h₆ => throughout_course_pure h₆

theorem BusInvariant.upholds_identifyLegacy (hI : BusInvariant F I) (patience : Nat)
    (deadline : Deadline) : Upholds I (identifyLegacy patience deadline).run := by
  intro s h
  refine throughout_course_bind (throughout_step ?_)
  refine (hI.throughout_send patience (by decide) (hI.harmless 0 (by decide)) h).mono fun probe s₁ h₁ => ?_
  refine throughout_course_bind (throughout_step ?_)
  refine (keeps_report hI.log _ s₁ h₁.1).whole.mono fun _ s₂ h₂ => ?_
  refine throughout_course_bind (throughout_attempt ?_)
  refine (hI.upholds_pollReady patience ?_ ?_ 0 deadline s₂ h₂).mono ?_
  · split <;> decide
  · split <;> decide
  rintro (error | _) s₃ h₃
  · exact h₃
  refine throughout_course_bind (throughout_step ?_)
  refine (hI.throughout_send patience (by decide) (hI.harmless _ (by decide)) h₃).mono fun r1 s₄ h₄ => ?_
  refine throughout_course_bind (throughout_attempt ?_)
  refine (hI.ensures_requireReady _ h₄).whole.mono ?_
  rintro (error | _) s₅ ⟨h₅, -⟩
  · exact h₅
  · exact throughout_course_pure h₅

theorem BusInvariant.upholds_identifyFamily (hI : BusInvariant F I) (patience : Nat) :
    Upholds I (identifyFamily patience).run := by
  intro s h
  refine throughout_course_bind (throughout_step ?_)
  refine (hI.keeps_startDeadline _ s h).whole.mono fun deadline s₁ h₁ => ?_
  refine throughout_course_bind (throughout_step ?_)
  refine (keeps_report hI.log _ s₁ h₁).whole.mono fun _ s₂ h₂ => ?_
  refine throughout_course_bind (throughout_step ?_)
  refine (hI.upholds_echoesInterface patience s₂ h₂).mono fun echoes s₃ h₃ => ?_
  cases echoes with
  | true =>
    refine throughout_course_bind (throughout_step ?_)
    exact (keeps_report hI.log _ s₃ h₃).whole.mono fun _ s₄ h₄ =>
      hI.upholds_identifyVersion2 patience deadline s₄ h₄
  | false => exact hI.upholds_identifyLegacy patience deadline s₃ h₃

theorem BusInvariant.upholds_identify (hI : BusInvariant F I) (patience : Nat) :
    Upholds I (identify patience).run := by
  intro s h
  refine throughout_course_bind (throughout_attempt ?_)
  refine (hI.upholds_resetCard patience s h).mono ?_
  rintro (error | _) s₁ h₁
  · exact h₁
  refine throughout_course_bind ((hI.upholds_identifyFamily patience s₁ h₁).mono ?_)
  rintro (error | family) s₂ h₂
  · exact h₂
  refine throughout_course_bind (throughout_step ?_)
  refine (keeps_report hI.log _ s₂ h₂).whole.mono fun _ s₃ h₃ => ?_
  refine throughout_course_bind ((hI.upholds_readRegister patience (by decide) (by decide) s₃ h₃).mono ?_)
  rintro (error | cid) s₄ h₄
  · exact h₄
  refine throughout_course_bind ((hI.upholds_readRegister patience (by decide) (by decide) s₄ h₄).mono ?_)
  rintro (error | csd) s₅ h₅
  · exact h₅
  refine throughout_course_bind (throughout_attempt ?_)
  refine (keeps_requireSize hI.log _ s₅ h₅).whole.mono ?_
  rintro (error | total) s₆ h₆
  · exact h₆
  refine throughout_course_bind (throughout_attempt ?_)
  refine (keeps_requireSize hI.log _ s₆ h₆).whole.mono ?_
  rintro (error | blockLog) s₇ h₇
  · exact h₇
  · exact throughout_course_pure h₇

/-! ## Transfers -/

theorem BusInvariant.upholds_readRun (hI : BusInvariant F I) (patience : Nat) {address : UInt32}
    (hframe : ∀ index, F (Command.frame index address)) (count : Nat) :
    Upholds I (readRun patience address count) := by
  intro s h
  unfold readRun
  have hindex := Command.ne_stop_of_movesSectors (Command.movesSectors_read count)
  refine (hI.throughout_send patience hindex (hframe _) h).bind fun r1 s₁ h₁ => ?_
  by_cases hready : r1 = R1.ready
  · rw [if_neg (not_not_intro hready)]
    have howns : s₁.device.owns = true := h₁.2 (hready ▸ rfl)
    refine ((upholds_receiveBlocks hI.timed patience count).left s₁ ⟨h₁.1, howns⟩).bind
      fun received s₂ h₂ => ?_
    split
    · exact (hI.keeps_sendStop patience 0 s₂ h₂).whole.bind fun _ _ hs' => throughout_pure hs'.1
    · exact throughout_pure h₂.1
  · rw [if_pos hready]
    exact (keeps_failureOf hI.log r1 s₁ h₁.1).whole.bind fun _ _ hs' => throughout_pure hs'

theorem BusInvariant.upholds_announceCount (hI : BusInvariant F I) (patience : Nat)
    (family : Family) (count : Nat) : Upholds I (announceCount patience family count) := by
  intro s h
  unfold announceCount
  split
  · refine (hI.throughout_send patience (by decide) (hI.harmless _ (by decide)) h).bind fun r1 s₁ h₁ => ?_
    split
    · exact (keeps_report hI.log _ s₁ h₁.1).whole
    · exact throughout_pure h₁.1
  · exact throughout_pure h

theorem BusInvariant.upholds_writeOne (hI : BusInvariant F I) (patience : Nat) {address : UInt32}
    (hframe : ∀ index, F (Command.frame index address)) {block : List UInt8}
    (hsay : Sayable F block) : Upholds I (writeOne patience address block) := by
  intro s h
  refine (hI.throughout_send patience (by decide) (hframe _) h).bind fun r1 s₁ h₁ => ?_
  by_cases hready : r1 = R1.ready
  · rw [if_neg (not_not_intro hready)]
    have howns : s₁.device.owns = true := h₁.2 (hready ▸ rfl)
    exact ((upholds_transmitBlock hI.timed patience _ hsay).left s₁ ⟨h₁.1, howns⟩).mono
      fun _ _ hs' => hs'.1
  · rw [if_pos hready]
    exact (keeps_failureOf hI.log r1 s₁ h₁.1).whole.bind fun _ _ hs' => throughout_pure hs'

/-- The count is announced whether or not the card takes note: what follows selects anew. -/
theorem BusInvariant.upholds_writeMany (hI : BusInvariant F I) (patience : Nat) (family : Family)
    {address : UInt32} (hframe : ∀ index, F (Command.frame index address))
    {blocks : List (List UInt8)} (hsay : ∀ block ∈ blocks, Sayable F block) :
    Upholds I (writeMany patience family address blocks) := by
  intro s h
  refine (hI.upholds_announceCount patience family _ s h).bind fun _ s₁ h₁ => ?_
  refine (hI.throughout_send patience (by decide) (hframe _) h₁).bind fun r1 s₂ h₂ => ?_
  by_cases hready : r1 = R1.ready
  · rw [if_neg (not_not_intro hready)]
    have howns : s₂.device.owns = true := h₂.2 (hready ▸ rfl)
    refine ((upholds_transmitBlocks hI.timed patience hsay).left s₂ ⟨h₂.1, howns⟩).bind
      fun outcome s₃ h₃ => ?_
    refine ((upholds_transmitStop hI.timed patience).left s₃ h₃).bind fun stop s₄ h₄ => ?_
    cases outcome with
    | error error => exact throughout_pure h₄.1
    | ok _ => exact throughout_pure h₄.1
  · rw [if_pos hready]
    exact (keeps_failureOf hI.log r1 s₂ h₂.1).whole.bind fun _ _ hs' => throughout_pure hs'

theorem BusInvariant.upholds_writeRun (hI : BusInvariant F I) (patience : Nat) (family : Family)
    {address : UInt32} (hframe : ∀ index, F (Command.frame index address))
    {blocks : List (List UInt8)} (hsay : ∀ block ∈ blocks, Sayable F block) :
    Upholds I (writeRun patience family address blocks) := by
  intro s h
  unfold writeRun
  split
  · exact hI.upholds_writeOne patience hframe (hsay _ (List.mem_singleton_self _)) s h
  · exact hI.upholds_writeMany patience family hframe hsay s h

theorem BusInvariant.ensures_conclude (hI : BusInvariant F I) {N : Type} [Diagnostic N]
    (note : CardError → N) (outcome : Except CardError Unit) {s : Session (Channel H) C}
    (h : I s) : Ensures (conclude note outcome) s fun _ s' => I s' ∧ s'.device.owns = false := by
  refine (hI.ensures_shutdown h).bind fun _ s₁ h₁ => ?_
  cases outcome with
  | ok _ => exact ensures_pure h₁
  | error error =>
    exact keeps_report (J := fun s => I s ∧ s.device.owns = false)
      (fun log h => ⟨hI.log log h.1, h.2⟩) _ s₁ h₁

/-- A read of sectors leaves a free bus free, whatever came of it. -/
theorem BusInvariant.throughout_readSectors (hI : BusInvariant F I) (patience : Nat)
    {info : CardInfo} {lba : UInt32} {buffer : List UInt8}
    (hframe : ∀ index address, info.runAddress lba (buffer.length / sectorSize) = .ok address →
      F (Command.frame index address)) {s : Session (Channel H) C} (h : I s) :
    Throughout I (readSectors patience info lba buffer) s fun _ s' =>
      I s' ∧ (s.device.owns = false → s'.device.owns = false) := by
  unfold readSectors
  dsimp only
  split
  · exact throughout_pure ⟨h, id⟩
  split
  · exact throughout_pure ⟨h, id⟩
  have hfetch : Upholds I (fetchRun patience info lba (buffer.length / sectorSize)) := by
    intro s h
    unfold fetchRun
    split
    · exact throughout_pure h
    · rename_i address haddress
      exact hI.upholds_readRun patience (fun index => hframe index address haddress) _ s h
  refine (hfetch s h).bind fun received s₁ h₁ => ?_
  exact (hI.ensures_conclude _ received.2 h₁).whole.bind fun _ _ hs' =>
    throughout_pure ⟨hs'.1, fun _ => hs'.2⟩

/-- A write of sectors leaves a free bus free, whatever came of it. -/
theorem BusInvariant.throughout_writeSectors (hI : BusInvariant F I) (patience : Nat)
    {info : CardInfo} {lba : UInt32} {bytes : List UInt8}
    (hframe : ∀ index address, info.runAddress lba (bytes.length / sectorSize) = .ok address →
      F (Command.frame index address)) {s : Session (Channel H) C} (h : I s) :
    Throughout I (writeSectors patience info lba bytes) s fun _ s' =>
      I s' ∧ (s.device.owns = false → s'.device.owns = false) := by
  unfold writeSectors
  dsimp only
  split
  · exact throughout_pure ⟨h, id⟩
  split
  · exact throughout_pure ⟨h, id⟩
  have hstore : Upholds I (storeRun patience info lba (bytes.length / sectorSize) bytes) := by
    intro s h
    unfold storeRun
    split
    · exact throughout_pure h
    rename_i address haddress
    refine hI.upholds_writeRun patience _ (fun index => hframe index address haddress) ?_ s h
    -- a block of a write is too long for a frame
    intro block hmem
    refine sayable_of_length ?_
    rw [length_of_mem_sectors (Nat.div_mul_le_self _ _) block hmem]
    decide
  refine (hstore s h).bind fun outcome s₁ h₁ => ?_
  exact (hI.ensures_conclude _ outcome h₁).whole.bind fun _ _ hs' =>
    throughout_pure ⟨hs'.1, fun _ => hs'.2⟩

/-! ## Lines -/

omit [Host H] [TickSource C] in
theorem ensures_unbind {s : Session (Channel H) C} {post : Unit → Session (Channel H) C → Prop}
    (hfree : s.device.line = none → post () s)
    (hbound : ∀ line, s.device.line = some line →
      post () { s with device.line := none, env.bus := s.env.bus.detach line }) :
    Ensures unbind s post := by
  intro a s' hrun
  rw [unbind, act_apply] at hrun
  cases hline : s.device.line with
  | none =>
    simp only [hline] at hrun
    cases hrun
    exact hfree hline
  | some line =>
    simp only [hline] at hrun
    cases hrun
    exact hbound line hline

omit [Host H] [TickSource C] in
theorem ensures_take {line : Line} {s : Session (Channel H) C}
    {post : Except BusError Unit → Session (Channel H) C → Prop}
    (hrefused : ∀ refusal, s.env.bus.attach line = .error refusal → post (.error refusal) s)
    (htaken : ∀ bus, s.env.bus.attach line = .ok bus →
      post (.ok ()) { s with device.line := some line, env.bus := bus }) :
    Ensures (take line) s post := by
  intro a s' hrun
  rw [take, act_apply] at hrun
  cases hattach : s.env.bus.attach line with
  | error refusal =>
    simp only [hattach] at hrun
    cases hrun
    exact hrefused refusal hattach
  | ok bus =>
    simp only [hattach] at hrun
    cases hrun
    exact htaken bus hattach

section Lines

variable {J : Session (Channel H) C → Prop}
  (hbinding : ∀ {s : Session (Channel H) C} line attached, J s →
    J { s with device.line := line, env.bus.attached := attached })

include hbinding

omit [Host H] [TickSource C] in
theorem keeps_unbind : Keeps J (unbind : ChannelM H C Unit) :=
  fun _ h => ensures_unbind (fun _ => h) fun _ _ => hbinding _ _ h

omit [Host H] [TickSource C] in
theorem keeps_take (line : Line) : Keeps J (take line : ChannelM H C (Except BusError Unit)) := by
  refine fun s h => ensures_take (fun _ _ => h) fun bus hattach => ?_
  rw [Arbiter.eq_of_attach hattach]
  exact hbinding _ _ h

omit [Host H] [TickSource C] in
theorem keeps_rebind (line : Line) :
    Keeps J (rebind line : ChannelM H C (Except BusError Unit)) := by
  intro s h
  refine ensures_bind (ensures_device ?_)
  split
  · exact ensures_pure h
  · exact (keeps_unbind hbinding s h).bind fun _ s₁ h₁ => keeps_take hbinding line s₁ h₁

end Lines

end ChannelM

end SpiDisk
