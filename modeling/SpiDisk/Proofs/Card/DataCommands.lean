import SpiDisk.Proofs.Bus.Calls
import SpiDisk.Proofs.Bus.History
import SpiDisk.Proofs.Device
import SpiDisk.Proofs.Sim.Card

/-!
# `SpiDisk.Proofs.Card.DataCommands` — which sectors the commands of a transfer name

A card that was brought up is one whose size was read from its own register, whatever the board did
while it was read. A transfer on such a card is refused, without a call on the board, exactly if it does
not lie on the card. Any other may still fail in many ways, but every data command that goes out on
its behalf carries the argument of its first sector, which is that of no other sector.

## Contents
- **Frames.** A frame tells its argument: `Command.frame_inj`.
- **Identified cards.** `measured_identify` and `Card.measured_bringUp`.
- **Answered commands.** `said_sendPlain`: what was answered was sent.
- **Transfers.** `Carried`, what a transfer does that is not refused.
- **Cards.** `Card.transfers_on_card`.
-/

namespace SpiDisk

/-! ## Frames -/

namespace Command

theorem frame_inj {index other : UInt8} {argument argument' : UInt32}
    (h : frame index argument = frame other argument') :
    movesSectors index = movesSectors other ∧ argument = argument' := by
  obtain ⟨hfirst, hrest⟩ := List.cons.inj h
  obtain ⟨hbytes, -⟩ := List.append_inj' hrest rfl
  constructor
  · unfold movesSectors
    rw [hfirst]
  · have hargument := congrArg SimCard.argumentOf hbytes
    rw [SimCard.argumentOf_argumentBytes, SimCard.argumentOf_argumentBytes] at hargument
    exact hargument

/-- If the bytes are the frame of a data command, it carries this argument. -/
def DataArgument (argument : UInt32) (bytes : List UInt8) : Prop :=
  ∀ index other, movesSectors index = true → bytes = frame index other → other = argument

theorem dataArgument_frame (index : UInt8) (argument : UInt32) :
    DataArgument argument (frame index argument) :=
  fun _ _ _ h => (frame_inj h).2.symm

theorem dataArgument_harmless {argument : UInt32} {index : UInt8} (other : UInt32)
    (hmoves : movesSectors index = false) : DataArgument argument (frame index other) := by
  intro index' other' hmoves' h
  rw [(frame_inj h).1, hmoves'] at hmoves
  cases hmoves

end Command

namespace ChannelM

open SessionM CardEngine

variable {H C : Type} [Host H] [TickSource C]

/-! ## Identified cards -/

theorem present_identifyVersion2 (patience : Nat) (deadline : Deadline) (s : Session (Channel H) C) :
    Ensures (identifyVersion2 patience deadline).run s fun result _ =>
      ∀ family, result = .ok family → family ≠ .absent := by
  refine ensures_course_then fun _ s₁ => ensures_course_then fun _ s₂ => ?_
  refine ensures_course_then fun r1 s₃ => ensures_course_then fun _ s₄ => ?_
  refine ensures_course_then fun ocr s₅ => ensures_course_then fun _ s₆ => ensures_course_pure ?_
  rintro family ⟨⟩
  split
  · decide
  · decide

theorem present_identifyLegacy (patience : Nat) (deadline : Deadline) (s : Session (Channel H) C) :
    Ensures (identifyLegacy patience deadline).run s fun result _ =>
      ∀ family, result = .ok family → family ≠ .absent := by
  refine ensures_course_then fun probe s₁ => ensures_course_then fun _ s₂ => ?_
  refine ensures_course_then fun _ s₃ => ensures_course_then fun r1 s₄ => ?_
  refine ensures_course_then fun _ s₅ => ensures_course_pure ?_
  rintro family ⟨⟩
  split
  · decide
  · decide

/-- A card that got through to a family has one. -/
theorem present_identifyFamily (patience : Nat) (s : Session (Channel H) C) :
    Ensures (identifyFamily patience).run s fun result _ =>
      ∀ family, result = .ok family → family ≠ .absent := by
  refine ensures_course_then fun deadline s₁ => ensures_course_then fun _ s₂ => ?_
  refine ensures_course_then fun echoes s₃ => ?_
  cases echoes with
  | true => exact ensures_course_then fun _ s₄ => present_identifyVersion2 patience deadline s₄
  | false => exact present_identifyLegacy patience deadline s₃

/-- **Identification measures the card,** whatever bytes it took for the register. -/
theorem measured_identify (patience : Nat) (s : Session (Channel H) C) :
    Ensures (identify patience).run s fun result _ =>
      ∀ info, result = .ok info → info.isPresent = true ∧ info.Measured := by
  refine ensures_course_then fun _ s₁ => ?_
  refine ensures_course_ok (present_identifyFamily patience s₁) fun family s₂ hfamily => ?_
  refine ensures_course_then fun _ s₃ => ensures_course_then fun cid s₄ => ?_
  refine ensures_course_then fun raw s₅ => ?_
  refine ensures_course_ok (ensures_attempt (ensures_requireSize _)) ?_
  rintro total s₆ ⟨hsize, rfl⟩
  refine ensures_course_ok (ensures_attempt (ensures_requireSize _)) ?_
  rintro blockLog s₇ ⟨hlog, rfl⟩
  refine ensures_course_pure ?_
  rintro info ⟨⟩
  exact ⟨decide_eq_true hfamily, ⟨raw, rfl⟩, hsize, hlog⟩

end ChannelM

namespace Card

open SessionM ChannelM

variable {H C : Type} [Host H] [TickSource C]

/-- A card that was brought up was measured, and is used at full speed. -/
theorem measured_bringUp (patience : Nat) (s : Session (Card H) C) :
    Ensures (bringUp patience) s fun result s' => result = .ok () →
      s'.device.info.isPresent = true ∧ s'.device.info.Measured ∧
        s'.device.channel.speed = .fast := by
  refine ensures_bind (ensures_any fun _ s₁ => ensures_bind (ensures_any fun _ s₂ => ?_))
  refine (ensures_onChannel (measured_identify patience (s₂.at Card.channel))).bind ?_
  intro outcome s₃ hmeasured
  refine ensures_bind (ensures_any fun _ s₄ => ?_)
  cases outcome with
  | ok info =>
    obtain ⟨hpresent, hmeasured⟩ := hmeasured info rfl
    refine ensures_bind (ensures_onDevice ?_)
    refine ensures_bind (ensures_within (ensures_onDevice ?_))
    refine ensures_bind (ensures_report (ensures_pure fun _ => ?_))
    exact ⟨hpresent, hmeasured, rfl⟩
  | error error => exact ensures_bind (ensures_report (ensures_pure nofun))

/-- A card that could not be brought up is forgotten. -/
theorem forgotten_bringUp (patience : Nat) (s : Session (Card H) C) :
    Ensures (bringUp patience) s fun result s' => result ≠ .ok () → s'.device.info = {} := by
  refine ensures_bind (ensures_forget ?_)
  refine (info_onChannel _ _).bind fun _ s₁ h₁ => ?_
  refine (info_onChannel _ _).bind fun outcome s₂ h₂ => ?_
  refine (info_onChannel _ _).bind fun _ s₃ h₃ => ?_
  cases outcome with
  | ok info =>
    refine ensures_bind (ensures_any fun _ s₄ => ensures_bind (ensures_any fun _ s₅ => ?_))
    exact ensures_bind (ensures_any fun _ s₆ => ensures_pure fun hne => absurd rfl hne)
  | error error => exact ensures_bind (ensures_report (ensures_pure fun _ => h₃.trans (h₂.trans h₁)))

end Card

/-! ## Answered commands -/

namespace ChannelM

open SessionM CardEngine

variable {H C : Type} [Host H] [TickSource C] {old : List Event} {s : Session (Channel H) C}
  {patience : Nat}

/-- A channel at full speed, whose history goes back to a moment. -/
def Brisk (old : List Event) (s : Session (Channel H) C) : Prop :=
  s.device.speed = .fast ∧ Wrote anyFrame old s

theorem fast_invariant :
    BusInvariant anyFrame fun s : Session (Channel H) C => s.device.speed = .fast :=
  settings_invariant fun _ speed _ => speed = .fast

theorem brisk_invariant : BusInvariant anyFrame (Brisk old : Session (Channel H) C → Prop) :=
  fast_invariant.and (wrote_invariant fun _ _ => trivial)

omit [TickSource C] in
/-- At full speed a frame goes out in one piece. -/
theorem said_exchangeFrame (index : UInt8) (argument : UInt32) (h : Brisk old s) :
    Ensures (exchangeFrame index argument) s fun _ s' =>
      Said (Command.frame index argument) old s' := by
  have hsaid : Steady anyFrame
      (Said (Command.frame index argument) old : Session (Channel H) C → Prop) :=
    since_steady (lasting_said _)
  refine ensures_bind (ensures_report (ensures_bind (ensures_bind (ensures_device ?_))))
  obtain ⟨hfast, events, hevents, -⟩ := h
  dsimp only
  rw [hfast]
  refine (reaches_shiftOut _ _).mono fun _ s₁ h₁ => ?_
  have hwritten : Said (Command.frame index argument) old s₁ := by
    rw [Said, Since, h₁.device]
    exact ⟨.wrote (Command.frame index argument) _ :: events, congrArg _ hevents, _,
      List.mem_cons_self ..⟩
  split
  · exact (keeps_readByte hsaid s₁ hwritten).bind fun _ s₂ h₂ => keeps_awaitResponse hsaid _ s₂ h₂
  · exact keeps_awaitResponse hsaid _ s₁ hwritten

/-- **What was answered was sent.** -/
theorem said_sendPlain {index : UInt8} (hindex : index ≠ Command.stopTransmission.index)
    (argument : UInt32) (h : Brisk old s) :
    Ensures (sendPlain patience index argument) s fun r1 s' =>
      R1.isAnswer r1 = true → Said (Command.frame index argument) old s' := by
  unfold sendPlain
  rw [if_neg hindex]
  refine (brisk_invariant.ensures_shutdown h).bind fun _ s₁ h₁ => ?_
  refine (brisk_invariant.throughout_selectCard patience h₁.1).back.bind fun ready s₂ h₂ => ?_
  cases ready with
  | true => exact (said_exchangeFrame index argument h₂.1).mono fun _ _ hs' _ => hs'
  | false => exact ensures_pure fun hanswer => absurd hanswer (by decide)

theorem said_send {command : Command} (hindex : command.index ≠ Command.stopTransmission.index)
    (happ : command.app = false) (argument : UInt32) (h : Brisk old s) :
    Ensures (send patience command argument) s fun r1 s' =>
      R1.isAnswer r1 = true → Said (Command.frame command.index argument) old s' := by
  unfold send
  rw [happ]
  exact said_sendPlain hindex argument h

/-! ## Transfers -/

omit [Host H] [TickSource C] in
theorem inRange_failureOf (r1 : UInt8) (s : Session (Channel H) C) :
    Ensures (failureOf r1) s fun error _ => error ≠ .outOfRange := by
  unfold failureOf
  split
  · exact ensures_bind (ensures_report (ensures_pure nofun))
  · exact ensures_pure nofun

theorem inRange_receiveBlock (count : Nat) (s : Session (Channel H) C) :
    Ensures (receiveBlock patience count) s fun result _ => result ≠ .error .outOfRange := by
  refine ensures_bind (ensures_any fun deadline s₁ => ensures_bind (ensures_any ?_))
  rintro (_ | token) s₂
  · exact ensures_bind (ensures_report (ensures_pure nofun))
  dsimp only
  split
  · refine ensures_bind (ensures_any fun bytes s₃ => ?_)
    exact ensures_bind (ensures_any fun _ s₄ => ensures_pure nofun)
  · exact ensures_bind (ensures_report (ensures_pure nofun))

theorem inRange_receiveBlocks (count : Nat) (s : Session (Channel H) C) :
    Ensures (receiveBlocks patience count) s fun received _ =>
      received.2 ≠ .error .outOfRange := by
  induction count generalizing s with
  | zero => exact ensures_pure nofun
  | succ count ih =>
    refine (inRange_receiveBlock sectorSize s).bind ?_
    rintro (error | block) s₁ h₁
    · exact ensures_pure fun h => h₁ (congrArg Except.error (Except.error.inj h))
    · exact (ih s₁).bind fun received _ hs' => ensures_pure hs'

theorem inRange_transmitBlock (token : UInt8) (bytes : List UInt8) (s : Session (Channel H) C) :
    Ensures (transmitBlock patience token bytes) s fun result _ => result ≠ .error .outOfRange := by
  refine ensures_bind (ensures_any fun ready s₁ => ?_)
  split
  · refine ensures_bind (ensures_any fun _ s₂ => ensures_bind (ensures_any fun _ s₃ => ?_))
    refine ensures_bind (ensures_any fun _ s₄ => ensures_bind (ensures_any fun response s₅ => ?_))
    split
    · exact ensures_pure nofun
    · exact ensures_bind (ensures_report (ensures_pure nofun))
  · exact ensures_pure nofun

theorem inRange_transmitBlocks (blocks : List (List UInt8)) (s : Session (Channel H) C) :
    Ensures (transmitBlocks patience blocks) s fun result _ => result ≠ .error .outOfRange := by
  induction blocks generalizing s with
  | nil => exact ensures_pure nofun
  | cons block rest ih =>
    refine (inRange_transmitBlock _ block s).bind ?_
    rintro (error | _) s₁ h₁
    · exact ensures_pure h₁
    · exact ih s₁

theorem inRange_transmitStop (s : Session (Channel H) C) :
    Ensures (transmitStop patience) s fun result _ => result ≠ .error .outOfRange := by
  refine ensures_bind (ensures_any fun ready s₁ => ?_)
  split
  · exact ensures_bind (ensures_any fun _ s₂ => ensures_pure nofun)
  · exact ensures_pure nofun

/-- What became of a run at an address: it was not refused for lying off the card, and if it
    succeeded then its command was sent. -/
structure Ended (old : List Event) (command : Command) (argument : UInt32)
    (outcome : Except CardError Unit) (s : Session (Channel H) C) : Prop where
  inRange : outcome ≠ .error .outOfRange
  sent : outcome = .ok () → Said (Command.frame command.index argument) old s

omit [Host H] [TickSource C] in
theorem Ended.of_failure {command : Command} {argument : UInt32} {error : CardError}
    (h : error ≠ .outOfRange) : Ended old command argument (.error error) s :=
  ⟨fun heq => h (Except.error.inj heq), nofun⟩

theorem ended_readRun (argument : UInt32) (count : Nat) (h : Brisk old s) :
    Ensures (readRun patience argument count) s fun received s' =>
      Ended old (if count > 1 then .readMultiple else .readSingle) argument received.2 s' := by
  have hindex := Command.ne_stop_of_movesSectors (Command.movesSectors_read count)
  refine (said_send hindex (Command.app_read count) argument h).bind fun r1 s₁ h₁ => ?_
  by_cases hready : r1 = R1.ready
  · rw [if_neg (not_not_intro hready)]
    have hsaid := h₁ (hready ▸ rfl)
    have hreceive := (upholds_receiveBlocks (since_timed (lasting_said _)) patience count s₁ hsaid).back.and
      (inRange_receiveBlocks count s₁)
    refine hreceive.bind fun received s₂ h₂ => ?_
    split
    · rw [if_pos ‹count > 1›] at h₂
      refine (keeps_exchangeFrame (since_steady (lasting_said _)) trivial s₂ h₂.1).bind ?_
      exact fun _ s₃ h₃ => ensures_pure ⟨h₂.2, fun _ => h₃⟩
    · rw [if_neg ‹¬ count > 1›] at h₂
      exact ensures_pure ⟨h₂.2, fun _ => h₂.1⟩
  · rw [if_pos hready]
    exact (inRange_failureOf r1 s₁).bind fun error s₂ h₂ => ensures_pure (.of_failure h₂)

theorem ended_writeOne (argument : UInt32) (block : List UInt8) (h : Brisk old s) :
    Ensures (writeOne patience argument block) s fun outcome s' =>
      Ended old .writeSingle argument outcome s' := by
  refine (said_send (by decide) rfl argument h).bind fun r1 s₁ h₁ => ?_
  by_cases hready : r1 = R1.ready
  · rw [if_neg (not_not_intro hready)]
    have hsaid := h₁ (hready ▸ rfl)
    have htransmit := (upholds_transmitBlock (since_timed (lasting_said _)) patience Token.startBlock
      (sayable_any block) s₁ hsaid).back.and (inRange_transmitBlock _ block s₁)
    exact htransmit.mono fun outcome s₂ h₂ => ⟨h₂.2, fun _ => h₂.1⟩
  · rw [if_pos hready]
    exact (inRange_failureOf r1 s₁).bind fun error s₂ h₂ => ensures_pure (.of_failure h₂)

theorem ended_writeMany (family : Family) (argument : UInt32) (blocks : List (List UInt8))
    (h : Brisk old s) :
    Ensures (writeMany patience family argument blocks) s fun outcome s' =>
      Ended old .writeMultiple argument outcome s' := by
  refine (brisk_invariant.upholds_announceCount patience family _ s h).back.bind fun _ s₁ h₁ => ?_
  refine (said_send (by decide) rfl argument h₁).bind fun r1 s₂ h₂ => ?_
  by_cases hready : r1 = R1.ready
  · rw [if_neg (not_not_intro hready)]
    have hsaid := h₂ (hready ▸ rfl)
    have htransmit := (upholds_transmitBlocks (since_timed (lasting_said _)) patience
      (fun block _ => sayable_any block) s₂ hsaid).back.and (inRange_transmitBlocks blocks s₂)
    refine htransmit.bind fun outcome s₃ h₃ => ?_
    have hstop := (upholds_transmitStop (since_timed (lasting_said _)) patience s₃ h₃.1).back.and
      (inRange_transmitStop s₃)
    refine hstop.bind fun stop s₄ h₄ => ?_
    cases outcome with
    | error error => exact ensures_pure (.of_failure fun heq => h₃.2 (congrArg Except.error heq))
    | ok _ => exact ensures_pure ⟨h₄.2, fun _ => h₄.1⟩
  · rw [if_pos hready]
    exact (inRange_failureOf r1 s₂).bind fun error s₃ h₃ => ensures_pure (.of_failure h₃)

theorem ended_writeRun (family : Family) (argument : UInt32) {blocks : List (List UInt8)}
    (hblocks : blocks.length ≠ 0) (h : Brisk old s) :
    Ensures (writeRun patience family argument blocks) s fun outcome s' =>
      Ended old (if blocks.length > 1 then .writeMultiple else .writeSingle) argument outcome s' := by
  match blocks with
  | [] => exact absurd rfl hblocks
  | [block] => exact ended_writeOne argument block h
  | block :: next :: rest =>
    rw [if_pos (by simp)]
    exact ended_writeMany family argument (block :: next :: rest) h

/-- Giving the bus back changes nothing about a run that is over. -/
theorem ended_conclude {N : Type} [Diagnostic N] (note : CardError → N) {command : Command}
    {argument : UInt32} {outcome : Except CardError Unit} (h : Ended old command argument outcome s) :
    Ensures (conclude note outcome) s fun _ s' => Ended old command argument outcome s' := by
  cases outcome with
  | error error => exact ensures_any fun _ _ => ⟨h.inRange, nofun⟩
  | ok _ =>
    refine ((said_invariant _).ensures_conclude note (.ok ()) (h.sent rfl)).mono fun _ s' hs' => ?_
    exact ⟨h.inRange, fun _ => hs'.1⟩

variable {info : CardInfo} {lba argument : UInt32}

theorem ended_readSectors {buffer : List UInt8} (hpresent : info.isPresent = true)
    (hcount : buffer.length / sectorSize ≠ 0)
    (haddress : info.runAddress lba (buffer.length / sectorSize) = .ok argument)
    (h : Brisk old s) :
    Ensures (readSectors patience info lba buffer) s fun result s' =>
      Ended old (if buffer.length / sectorSize > 1 then .readMultiple else .readSingle) argument
        result.1 s' := by
  unfold readSectors fetchRun
  simp only [hpresent, hcount, haddress, Bool.not_true, Bool.false_eq_true, if_false]
  refine (ended_readRun argument _ h).bind fun received s₁ h₁ => ?_
  exact (ended_conclude _ h₁).bind fun _ s₂ h₂ => ensures_pure h₂

theorem ended_writeSectors {bytes : List UInt8} (hpresent : info.isPresent = true)
    (hcount : bytes.length / sectorSize ≠ 0)
    (haddress : info.runAddress lba (bytes.length / sectorSize) = .ok argument)
    (h : Brisk old s) :
    Ensures (writeSectors patience info lba bytes) s fun outcome s' =>
      Ended old (if bytes.length / sectorSize > 1 then .writeMultiple else .writeSingle) argument
        outcome s' := by
  have hlength := length_sectors (bytes.length / sectorSize) bytes
  unfold writeSectors storeRun
  simp only [hpresent, hcount, haddress, Bool.not_true, Bool.false_eq_true, if_false]
  refine (ended_writeRun _ argument (hlength.symm ▸ hcount) h).bind fun outcome s₁ h₁ => ?_
  rw [hlength] at h₁
  exact (ended_conclude _ h₁).bind fun _ s₂ h₂ => ensures_pure h₂

/-! ## Refusals -/

omit [TickSource C] in
/-- A failure with the bus given back already is only reported. -/
theorem conclude_refused {N : Type} [Diagnostic N] (note : CardError → N) (error : CardError)
    (howns : s.device.owns = false) :
    conclude note (.error error) s =
      some ((), { s with env.log := s.env.log.report (note error) }) := by
  obtain ⟨device, env⟩ := s
  cases device
  cases howns
  rfl

theorem readSectors_refused {buffer : List UInt8} {error : CardError}
    (hpresent : info.isPresent = true) (hcount : buffer.length / sectorSize ≠ 0)
    (haddress : info.runAddress lba (buffer.length / sectorSize) = .error error)
    (howns : s.device.owns = false) :
    ∃ log, readSectors patience info lba buffer s =
      some ((.error error, buffer), { s with env.log := log }) := by
  let note := CardNote.readFailed (buffer.length / sectorSize) lba
  refine ⟨s.env.log.report (note error), ?_⟩
  unfold readSectors fetchRun
  simp only [hpresent, hcount, haddress, Bool.not_true, Bool.false_eq_true, if_false, pure_bind]
  refine bind_eq_some_iff.mpr ⟨_, _, conclude_refused note error howns, ?_⟩
  -- no block came in, so that nothing is put in front of the buffer
  show some ((_, [] ++ buffer.drop (0 * sectorSize)), _) = _
  rw [Nat.zero_mul, List.drop_zero, List.nil_append]

theorem writeSectors_refused {bytes : List UInt8} {error : CardError}
    (hpresent : info.isPresent = true) (hcount : bytes.length / sectorSize ≠ 0)
    (haddress : info.runAddress lba (bytes.length / sectorSize) = .error error)
    (howns : s.device.owns = false) :
    ∃ log, writeSectors patience info lba bytes s =
      some (.error error, { s with env.log := log }) := by
  let note := CardNote.writeFailed (bytes.length / sectorSize) lba
  refine ⟨s.env.log.report (note error), ?_⟩
  unfold writeSectors storeRun
  simp only [hpresent, hcount, haddress, Bool.not_true, Bool.false_eq_true, if_false, pure_bind]
  exact bind_eq_some_iff.mpr ⟨_, _, conclude_refused note error howns, rfl⟩

end ChannelM

namespace CardInfo

/-- The argument of a sector as a number: no card with byte offsets is so large that they wrap. -/
theorem toNat_argument {info : CardInfo} (hsize : info.Addressable) {lba : UInt32}
    (hlba : lba.toNat < info.totalSectors.toNat) :
    (info.argument lba).toNat =
      if info.family = .sdhc then lba.toNat else sectorSize * lba.toNat := by
  unfold argument
  by_cases hfamily : info.family = .sdhc
  · have hblock : info.blockAddressed = true := decide_eq_true hfamily
    rw [if_pos hblock, if_pos hfamily]
  · have hblock : info.blockAddressed = false := decide_eq_false hfamily
    have hsize := hsize hblock
    rw [hblock, if_neg (by decide), if_neg hfamily, UInt32.toNat_mul]
    show lba.toNat * 512 % 2 ^ 32 = 512 * lba.toNat
    omega

/-- No two sectors of a card share an argument. -/
theorem argument_inj {info : CardInfo} (hsize : info.Addressable) {lba other : UInt32}
    (hlba : lba.toNat < info.totalSectors.toNat) (hother : other.toNat < info.totalSectors.toNat)
    (h : info.argument lba = info.argument other) : lba = other := by
  have hsame := congrArg UInt32.toNat h
  rw [toNat_argument hsize hlba, toNat_argument hsize hother] at hsame
  split at hsame
  · exact UInt32.toNat_inj.mp hsame
  · exact UInt32.toNat_inj.mp (Nat.eq_of_mul_eq_mul_left (by decide) hsame)

end CardInfo

/-! ## Cards -/

namespace Card

open SessionM ChannelM

variable {H C : Type} [Host H] [TickSource C]

/-- What a transfer does that is not refused: no data command goes out with another argument, and
    it does not succeed without its own. -/
structure Carried (command : Command) (argument : UInt32) (outcome : Except CardError Unit)
    (s s' : Session (Channel H) C) : Prop where
  ended : Ended s.device.history command argument outcome s'
  only : Wrote (Command.DataArgument argument) s.device.history s'

variable {s : Session (Card H) C} {lba argument : UInt32}

theorem carried_read (patience : Nat) {buffer : List UInt8}
    (hpresent : s.device.info.isPresent = true) (hcount : buffer.length / sectorSize ≠ 0)
    (haddress : s.device.info.runAddress lba (buffer.length / sectorSize) = .ok argument)
    (hfast : s.device.channel.speed = .fast) :
    Ensures (read patience lba buffer) s fun result s' =>
      Carried (if buffer.length / sectorSize > 1 then .readMultiple else .readSingle) argument result.1
        (s.at Card.channel) (s'.at Card.channel) := by
  have hbrisk : Brisk s.device.channel.history (s.at Card.channel) := ⟨hfast, wrote_refl _⟩
  have hended : Ensures (read patience lba buffer) s _ :=
    ensures_bind (ensures_device (ensures_onChannel
      (ended_readSectors hpresent hcount haddress hbrisk)))
  have honly : Ensures (read patience lba buffer) s _ :=
    (throughout_read (wrote_invariant Command.dataArgument_harmless) patience
      (fun index address h => by
        obtain rfl := Except.ok.inj (haddress.symm.trans h)
        exact Command.dataArgument_frame index argument)
      (wrote_refl (s.at Card.channel))).back
  exact (hended.and honly).mono fun _ _ h => ⟨h.1, h.2.1⟩

theorem carried_write (patience : Nat) {bytes : List UInt8}
    (hpresent : s.device.info.isPresent = true) (hcount : bytes.length / sectorSize ≠ 0)
    (haddress : s.device.info.runAddress lba (bytes.length / sectorSize) = .ok argument)
    (hfast : s.device.channel.speed = .fast) :
    Ensures (write patience lba bytes) s fun outcome s' =>
      Carried (if bytes.length / sectorSize > 1 then .writeMultiple else .writeSingle) argument outcome
        (s.at Card.channel) (s'.at Card.channel) := by
  have hbrisk : Brisk s.device.channel.history (s.at Card.channel) := ⟨hfast, wrote_refl _⟩
  have hended : Ensures (write patience lba bytes) s _ :=
    ensures_bind (ensures_device (ensures_onChannel
      (ended_writeSectors hpresent hcount haddress hbrisk)))
  have honly : Ensures (write patience lba bytes) s _ :=
    (throughout_write (wrote_invariant Command.dataArgument_harmless) patience
      (fun index address h => by
        obtain rfl := Except.ok.inj (haddress.symm.trans h)
        exact Command.dataArgument_frame index argument)
      (wrote_refl (s.at Card.channel))).back
  exact (hended.and honly).mono fun _ _ h => ⟨h.1, h.2.1⟩

/-- **Range and arguments.** Once a card has been brought up, over whatever board, a transfer of whole
    sectors with the bus free is refused exactly if it does not lie on the card. A refusal leaves the
    card, its channel and the buffer as they were; only the log may grow. Any other transfer passes the
    check of its range, and puts the argument of its first sector into its data command: the number of the
    sector on a high-capacity card, and its byte offset, which fits 32 bits along the whole run, on every
    other. No other sector of the card has the same argument. -/
theorem transfers_on_card {upPatience : Nat} {s s₁ s₂ : Session (Card H) C}
    (hup : bringUp upPatience s = some (.ok (), s₁)) (hinfo : s₂.device.info = s₁.device.info)
    (hspeed : s₂.device.channel.speed = s₁.device.channel.speed)
    (howns : s₂.device.channel.owns = false) (patience : Nat) (lba : UInt32) {count : Nat}
    (hcount : 0 < count) {buffer : List UInt8} (hlength : buffer.length = count * sectorSize) :
    let info := s₂.device.info
    if info.totalSectors.toNat < lba.toNat + count then
      (∃ log, read patience lba buffer s₂ =
          some ((.error .outOfRange, buffer), { s₂ with env.log := log })) ∧
        ∃ log, write patience lba buffer s₂ =
          some (.error .outOfRange, { s₂ with env.log := log })
    else
      info.runAddress lba count = .ok (info.argument lba) ∧
        (info.argument lba).toNat =
          (if info.family = .sdhc then lba.toNat else sectorSize * lba.toNat) ∧
        (info.family ≠ .sdhc → ∀ i < count, sectorSize * (lba.toNat + i) < 2 ^ 32) ∧
        (∀ other : UInt32, other.toNat < info.totalSectors.toNat →
          info.argument other = info.argument lba → other = lba) ∧
        Ensures (read patience lba buffer) s₂ (fun result s₃ =>
          Carried (if count > 1 then .readMultiple else .readSingle) (info.argument lba) result.1
            (s₂.at Card.channel) (s₃.at Card.channel)) ∧
        Ensures (write patience lba buffer) s₂ fun outcome s₃ =>
          Carried (if count > 1 then .writeMultiple else .writeSingle) (info.argument lba) outcome
            (s₂.at Card.channel) (s₃.at Card.channel) := by
  intro info
  obtain ⟨hpresent, hmeasured, hfast⟩ := measured_bringUp upPatience s (.ok ()) s₁ hup rfl
  rw [← hinfo] at hpresent hmeasured
  rw [← hspeed] at hfast
  have hsize : info.Addressable := hmeasured.addressable
  have hsectors : buffer.length / sectorSize = count := by
    rw [hlength]
    exact Nat.mul_div_cancel count (by decide)
  have hsome : buffer.length / sectorSize ≠ 0 := by omega
  have haddress := info.runAddress_eq hsize lba hcount
  rw [← hsectors] at haddress
  split
  · rw [if_neg (by omega)] at haddress
    have hread := @readSectors_refused _ _ _ _ (s₂.at Card.channel) patience _ lba buffer _
      hpresent hsome haddress howns
    have hwrite := @writeSectors_refused _ _ _ _ (s₂.at Card.channel) patience _ lba buffer _
      hpresent hsome haddress howns
    obtain ⟨log, hread⟩ := hread
    obtain ⟨log', hwrite⟩ := hwrite
    exact ⟨⟨log, (bind_eq rfl).trans (within_eq hread)⟩, log', (bind_eq rfl).trans (within_eq hwrite)⟩
  · have hlba : lba.toNat < info.totalSectors.toNat := by omega
    rw [if_pos (by omega)] at haddress
    have hread := carried_read patience hpresent hsome haddress hfast
    have hwrite := carried_write patience hpresent hsome haddress hfast
    rw [hsectors] at haddress hread hwrite
    refine ⟨haddress, CardInfo.toNat_argument hsize hlba, ?_, ?_, hread, hwrite⟩
    · intro hfamily i hi
      have hblock : info.blockAddressed = false := decide_eq_false hfamily
      have hsize := hsize hblock
      show 512 * (lba.toNat + i) < 2 ^ 32
      omega
    · exact fun other hother h => CardInfo.argument_inj hsize hother hlba h

/-- The last sector of a card has an argument, and a run of two from there on is refused. -/
theorem transfers_on_card_last :
    ∃ s₁, bringUp 200 ⟨{ channel := { host := SimCard.new .sd2, line := some .one } },
        { clock := { value := 0 : Counter } }⟩ = some (.ok (), s₁) ∧
      (s₁.device.info.argument 1966079).toNat = 512 * 1966079 ∧
      ∃ log, read 200 1966079 (List.replicate 1024 0) s₁ =
        some ((.error .outOfRange, List.replicate 1024 0), { s₁ with env.log := log }) := by
  let device : Card SimCard := { channel := { host := SimCard.new .sd2, line := some .one } }
  let env : Env Counter := { clock := { value := 0 } }
  have hback : (bringUp 200 ⟨device, env⟩).any (fun up => up.1.isOk &&
      decide (up.2.device.info.totalSectors = 1966080 ∧ up.2.device.info.family = .sd2 ∧
        up.2.device.channel.owns = false)) = true := by decide +kernel
  obtain ⟨⟨result, s₁⟩, hup, hfound⟩ := (Option.any_eq_true _ _).mp hback
  cases result with
  | error error => cases hfound
  | ok _ =>
    obtain ⟨htotal, hfamily, howns⟩ := of_decide_eq_true hfound
    have htotal : s₁.device.info.totalSectors.toNat = 1966080 := congrArg UInt32.toNat htotal
    have hone : (List.replicate 512 (0 : UInt8)).length = 1 * sectorSize := List.length_replicate
    have htwo : (List.replicate 1024 (0 : UInt8)).length = 2 * sectorSize := List.length_replicate
    have hlast := transfers_on_card hup rfl rfl howns 200 1966079 (by decide) hone
    have hpast := transfers_on_card hup rfl rfl howns 200 1966079 (by decide) htwo
    dsimp only at hlast hpast
    rw [htotal, if_neg (by decide), hfamily, if_neg (by decide)] at hlast
    rw [htotal, if_pos (by decide)] at hpast
    exact ⟨s₁, hup, hlast.2.1, hpast.1⟩

end Card

end SpiDisk
