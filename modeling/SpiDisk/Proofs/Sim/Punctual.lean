import SpiDisk.Proofs.Card.Completion
import SpiDisk.Proofs.Register.Cid
import SpiDisk.Proofs.Sim.BringUp

/-!
# `SpiDisk.Proofs.Sim.Punctual` — a card in good order is identified

A card that is there, answers within the bytes that are read for an answer, and leaves its idle state
after no more than fifteen attempts is identified whatever state it was left in, if the clock moves one
tick with every reading: a card that is not busy takes a command after a single reading of the clock, so
that all attempts are made before the deadline passes. The sizes in its register alone decide whether it
is accepted.

## Contents
- **Readings.** How often a command to a card that is not busy reads the clock.
- **Steps.** Each step of an identification succeeds: `ok_pollReady` and the others.
- **All of it.** `exact_identify`, and `Card.bringUp_exact`.
-/

namespace SpiDisk

namespace ChannelM

open SessionM CardEngine

variable {H C : Type} [CardBoard H] [TickSource C]

/-! ## Readings -/

section Readings

variable {s : Session (Channel H) C} {patience : Nat}

/-- A card that is not busy is found ready at once. -/
theorem spent_waitReady_free (h : s.Clean) (hselected : s.sim.selected = true)
    (hout : s.sim.out = []) (hstream : s.sim.stream = none) (hfree : s.sim.busy = .bytes 0) :
    Ensures (waitReady patience) s fun _ s' => Spent 1 1 s.env.clock s'.env.clock := by
  have hidle : s.sim.heard 0 = idleByte := by
    rw [SimCard.heard_of_waiting hselected hout hstream, hfree]
    rfl
  let started : Session (Channel H) C := { s with env.clock := (TickSource.now s.env.clock).2 }
  have hfound : (if started.sim.heard 0 = idleByte then some () else none) = some () := if_pos hidle
  have hnone : ∀ earlier < 0,
      (if started.sim.heard earlier = idleByte then some () else none) = none :=
    fun _ hno => nomatch hno
  have hclean : started.Clean := h
  apply ensures_bind
  apply ensures_startDeadline
  refine (clean_pollByte_first _ patience hclean rfl hnone hfound).bind ?_
  rintro _ s' ⟨-, ⟨-, -, hmoved⟩ | ⟨-, hlate⟩⟩
  · apply ensures_pure
    rw [hmoved.clock]
    exact spent_one s.env.clock
  · exact absurd (patient_zero s.env.clock) hlate

/-- A card that is not busy is selected after a single reading. -/
theorem spent_selectCard_free (h : s.Clean) (hline : s.device.line ≠ none)
    (hrested : s.sim.rested = s.sim) (hfree : s.sim.busy = .bytes 0) :
    Ensures (selectCard patience) s fun _ s' => Spent 1 1 s.env.clock s'.env.clock := by
  refine (sim_selectCard (R := fun _ s₁ => Spent 1 1 s.env.clock s₁.env.clock) patience hline hrested
    ?_).mono ?_
  · intro s₁ hwoken
    have hsim₁ : s₁.sim = s.sim.rested.listening := by
      rw [hwoken.sim, ← hrested]
      show { s.sim.rested with selected := true, busy := s.sim.busy.less 1 } = _
      rw [hfree]
      rfl
    have hwait : Ensures (waitReady patience) s₁ fun _ s₂ =>
        Spent 1 1 s₁.env.clock s₂.env.clock :=
      spent_waitReady_free (hwoken.served.clean h) (by rw [hsim₁]; rfl) (by rw [hsim₁]; rfl)
        (by rw [hsim₁]; rfl) (by rw [hsim₁]; rfl)
    rw [hwoken.clock] at hwait
    exact hwait
  · rintro (_ | _) s₁ ⟨-, hready, hrest⟩
    · obtain ⟨s₂, hspent₂, -, hclock₁, -⟩ := hrest rfl
      rw [hclock₁]
      exact hspent₂
    · exact hready rfl

/-- A card that is not busy takes a command after a single reading. -/
theorem Prompt.spent_sendPlain (h : Prompt s) {index : UInt8}
    (hindex : index ≠ Command.stopTransmission.index) (argument : UInt32) :
    Ensures (sendPlain patience index argument) s fun _ s' =>
      Spent 1 1 s.env.clock s'.env.clock := by
  unfold sendPlain
  rw [if_neg hindex]
  refine (sim_shutdown h.settled).bind fun _ s₁ ⟨hsim₁, _, hclock₁, hserved₁⟩ => ?_
  have hline₁ : s₁.device.line ≠ none := by
    rw [hserved₁.line]
    exact h.bound
  have hrested₁ : s₁.sim.rested = s₁.sim := by rw [hsim₁]; rfl
  have hfree₁ : s₁.sim.busy = .bytes 0 := by rw [hsim₁]; exact h.free
  refine (spent_selectCard_free (hserved₁.clean h.clean) hline₁ hrested₁ hfree₁).bind
    fun ready s₂ hspent₂ => ?_
  rw [hclock₁] at hspent₂
  cases ready with
  | true =>
    -- neither the frame nor its answer takes a reading of the clock
    refine (keeps_exchangeFrame still_steady trivial s₂ rfl).mono fun _ s₃ hclock₃ => ?_
    rw [hclock₃]
    exact hspent₂
  | false => exact ensures_pure hspent₂

/-- An attempt to bring up the card is one command, or two with the notice. -/
theorem Prompt.spent_attempt (h : Prompt s) {command : Command}
    (hcommand : BringsUp s.sim.kind command) (argument : UInt32) :
    Ensures (send patience command argument) s fun _ s' =>
      Spent 1 2 s.env.clock s'.env.clock := by
  unfold send
  rcases hcommand with ⟨hkind, rfl⟩ | ⟨-, rfl⟩
  · rw [if_pos (by decide)]
    refine ((h.appNotice patience hkind).and (h.spent_sendPlain (by decide) 0)).bind ?_
    rintro _ s₁ ⟨⟨rfl, -, -, hasked₁⟩, hspent₁⟩
    rw [if_neg s.sim.status_le]
    refine (hasked₁.prompt.spent_sendPlain (by decide) argument).mono fun _ s₂ hspent₂ => ?_
    exact (hspent₁.trans hspent₂).mono (by decide) (Nat.le_refl 2)
  · rw [if_neg (by decide)]
    refine (h.spent_sendPlain (by decide) argument).mono fun _ s₁ hspent₁ => ?_
    exact hspent₁.mono (Nat.le_refl 1) (by decide)

theorem Prompt.spent_probe (h : Prompt s) :
    Ensures (send patience Command.appSendOpCond 0) s fun _ s' =>
      Spent 1 2 s.env.clock s'.env.clock := by
  by_cases hkind : s.sim.kind = .mmc
  · unfold send
    rw [if_pos (by decide)]
    refine ((h.ask patience (by decide) 0 s.sim.isAnswer_illegal
      (SimCard.asked_appNotice_mmc hkind 0 _) rfl).and
      (h.spent_sendPlain (by decide) 0)).bind ?_
    rintro _ s₁ ⟨⟨rfl, -, -⟩, hspent₁⟩
    rw [if_pos s.sim.illegal_gt]
    exact ensures_pure (hspent₁.mono (Nat.le_refl 1) (by decide))
  · exact h.spent_attempt (.inl ⟨hkind, rfl⟩) 0

theorem Prompt.spent_echoesInterface (h : Prompt s) :
    Ensures (CardEngine.echoesInterface patience) s fun _ s' =>
      Spent 1 1 s.env.clock s'.env.clock := by
  have hindex : Command.sendIfCond.index ≠ Command.stopTransmission.index := by decide
  refine (h.spent_sendPlain hindex ifCondPattern).bind fun r1 s₁ h₁ => ?_
  split
  · refine (keeps_readWord still_steady s₁ rfl).bind fun _ s₂ h₂ => ensures_pure ?_
    rw [h₂]
    exact h₁
  · exact ensures_pure h₁

end Readings

/-! ## Steps -/

section Steps

variable {s : Session (Channel H) Counter} {patience : Nat}

omit [CardBoard H] in
theorem ok_requireReady (index : UInt8) (s : Session (Channel H) Counter) :
    Ensures (requireReady index R1.ready) s fun result _ => result = .ok () :=
  ensures_pure rfl

theorem Regular.served {s' : Session (Channel H) Counter} (h : Regular s.env.clock)
    (hserved : Served s s') : Regular s'.env.clock := by
  obtain ⟨readings, hclock⟩ := hserved.clock
  rw [hclock]
  exact h.ticked readings

/-- **The reset** of a card that is there and answers soon enough succeeds. -/
theorem ok_resetCard (h : s.Clean) (hline : s.device.line ≠ none)
    (hpresent : s.sim.knobs.present = true) (hgap : s.sim.knobs.responseGap < responsePolls)
    (hfree : s.sim.busy = .bytes 0) :
    Ensures (resetCard patience) s fun result _ => result = .ok () := by
  refine (sim_powerUp patience s).bind ?_
  rintro _ s₁ ⟨hsim₁, howns₁, hserved₁⟩
  refine (sim_report _ s₁).bind ?_
  rintro _ s₂ ⟨hsim₂, hmoved₂⟩
  rw [hsim₁] at hsim₂
  have hserved₂ : Served s s₂ := hserved₁.trans hmoved₂.served
  have howns₂ : s₂.device.owns = true := hmoved₂.owns.trans howns₁
  have hprompt₂ : Prompt s₂ := by
    refine ⟨⟨hserved₂.clean h, ?_, settled_of_owns howns₂, ?_, ?_⟩, ?_, howns₂⟩
    · rw [hserved₂.line]
      exact hline
    · rw [hsim₂]
      exact hpresent
    · rw [hsim₂]
      exact hgap
    · rw [hsim₂]
      exact hfree
  have hanswer : R1.isAnswer R1.idle = true := by decide
  refine (hprompt₂.ask patience (by decide) 0 hanswer (s₂.sim.asked_goIdle 0 _) rfl).bind ?_
  rintro _ s₃ ⟨rfl, -, -⟩
  exact ensures_pure rfl

/-- **The wait for the card** succeeds if there is time for all the attempts that it will answer as
    idle, each of which takes up to three readings of the clock. -/
theorem ok_pollReady (h : Prompt s) {command : Command} (hcommand : BringsUp s.sim.kind command)
    (hpending : s.sim.appPending = false) (argument : UInt32) {deadline : Deadline} {elapsed : Nat}
    (helapsed : Elapsed deadline 60 elapsed s.env.clock)
    (hroom : elapsed + 3 * s.sim.pollsLeft ≤ 60) :
    Ensures (pollReady patience command argument deadline) s fun result _ => result = .ok () := by
  refine (ensures_pollReady (P := fun s' => Asked s s' ∧ s'.sim.appPending = false ∧
    ∃ elapsed, Elapsed deadline 60 elapsed s'.env.clock ∧ elapsed + 3 * s'.sim.pollsLeft ≤ 60)
    (Q := fun _ => True) (R := fun _ => False) ?_ (fun _ h => h)
    ⟨h.refl, hpending, elapsed, helapsed, hroom⟩).mono ?_
  · -- before every attempt there is still time for those to come
    rintro s₁ ⟨hasked₁, hpending₁, elapsed₁, helapsed₁, hroom₁⟩
    have hkind : s₁.sim.kind = s.sim.kind := SimCard.kind_of_media hasked₁.media
    have hcommand₁ : BringsUp s₁.sim.kind command := by
      rw [hkind]
      exact hcommand
    refine ((hasked₁.prompt.attempt patience hcommand₁ hpending₁ argument).and
      (hasked₁.prompt.spent_attempt hcommand₁ argument)).mono ?_
    rintro r1 s₂ ⟨⟨hasked₂, hpending₂, hattempted⟩, hspent₂⟩
    obtain ⟨elapsed₂, -, hmost, helapsed₂⟩ := helapsed₁.spent hspent₂
    rcases hattempted with ⟨-, rfl, -⟩ | ⟨hpolls, rfl⟩
    · rw [if_pos rfl]
      trivial
    · have hreached : deadline.reachedAt (TickSource.now s₂.env.clock).1 = decide (60 ≤ elapsed₂) :=
        helapsed₂.reachedAt (by decide) (by omega)
      have hearly : ¬ 60 ≤ elapsed₂ := by omega
      rw [if_neg (by decide), hreached, decide_eq_false hearly, if_neg (by decide)]
      refine ⟨(hasked₁.trans hasked₂).ticked, hpending₂, elapsed₂ + 1, helapsed₂.ticked 1, ?_⟩
      show elapsed₂ + 1 + 3 * s₂.sim.pollsLeft ≤ 60
      omega
  · rintro (_ | _) s₁ h₁
    · exact h₁.elim
    · rfl

/-- A notice takes no time. -/
theorem Asked.reportAtOnce {N : Type} [Diagnostic N] (event : N)
    {s' : Session (Channel H) Counter} (h : Asked s s') :
    Ensures (SessionM.report event) s' fun _ s'' =>
      (Asked s s'' ∧ s''.sim = s'.sim) ∧ s''.env.clock = s'.env.clock :=
  (h.report event).and
    (keeps_report (J := fun s'' => s''.env.clock = s'.env.clock) (fun _ h => h) event s' rfl)

theorem ok_identifyVersion2 (h : Prompt s) (hversion : s.sim.isVersion2 = true)
    (hpending : s.sim.appPending = false) (hocr : s.sim.knobs.failReadOcr = false)
    {deadline : Deadline} {elapsed : Nat} (helapsed : Elapsed deadline 60 elapsed s.env.clock)
    (hroom : elapsed + 3 * s.sim.pollsLeft ≤ 60) :
    Ensures (identifyVersion2 patience deadline).run s fun result _ =>
      ∃ family, result = .ok family := by
  apply ensures_course_bind
  apply ensures_step
  refine (h.refl.reportAtOnce _).mono ?_
  rintro _ s₁ ⟨⟨hasked₁, hsim₁⟩, hclock₁⟩
  have hcommand₁ : BringsUp s₁.sim.kind Command.appSendOpCond := by
    rw [hsim₁]
    exact .inl ⟨SimCard.kind_ne_mmc hversion, rfl⟩
  have hpending₁ : s₁.sim.appPending = false := by rw [hsim₁]; exact hpending
  rw [← hsim₁] at hroom
  rw [← hclock₁] at helapsed
  apply ensures_course_bind
  apply ensures_attempt
  refine ((hasked₁.prompt.pollReady patience hcommand₁ hpending₁ highCapacitySupport deadline).and
    (ok_pollReady hasked₁.prompt hcommand₁ hpending₁ highCapacitySupport helapsed hroom)).mono ?_
  rintro _ s₂ ⟨hready, rfl⟩
  obtain ⟨hasked₂, hidle₂⟩ := hready rfl
  -- a card that left its idle state tells its conditions behind the status of a ready one
  have hready₂ : s₂.sim.status = R1.ready := SimCard.status_of_ready hidle₂
  have hexecute := s₂.sim.asked_readOcr 0 s₂.sim.appPending
  rw [SimCard.knobs_of_media (hasked₁.trans hasked₂).media, hocr, if_neg (by decide)] at hexecute
  apply ensures_course_bind
  apply ensures_step
  refine (hasked₂.prompt.ask patience (by decide) 0 s₂.sim.isAnswer_status hexecute rfl).mono ?_
  rintro _ s₃ ⟨rfl, -, -⟩
  rw [hready₂]
  apply ensures_course_bind
  apply ensures_attempt
  refine (ok_requireReady _ s₃).mono ?_
  rintro _ s₄ rfl
  apply ensures_course_bind
  apply ensures_step
  apply ensures_any
  intro ocr s₅
  apply ensures_course_bind
  apply ensures_step
  apply ensures_any
  intro _ s₆
  exact ensures_course_pure ⟨_, rfl⟩

theorem ok_identifyLegacy (h : Prompt s) (hversion : s.sim.isVersion2 = false)
    (hpending : s.sim.appPending = false) {deadline : Deadline} {elapsed : Nat}
    (helapsed : Elapsed deadline 60 elapsed s.env.clock)
    (hroom : elapsed + 2 + 3 * s.sim.pollsLeft ≤ 60) :
    Ensures (identifyLegacy patience deadline).run s fun result _ =>
      ∃ family, result = .ok family := by
  apply ensures_course_bind
  apply ensures_step
  refine ((h.probe patience hversion hpending).and h.spent_probe).mono ?_
  rintro probe s₁ ⟨⟨hasked₁, hpending₁, hpolls₁, -, hcommand⟩, hspent₁⟩
  -- the two readings of the probe are the ones that there was room for
  obtain ⟨elapsed₁, -, hmost, helapsed₁⟩ := helapsed.spent hspent₁
  apply ensures_course_bind
  apply ensures_step
  refine (hasked₁.reportAtOnce _).mono ?_
  rintro _ s₂ ⟨⟨hasked₂, hsim₂⟩, hclock₂⟩
  have hkind₂ : s₂.sim.kind = s.sim.kind := SimCard.kind_of_media hasked₂.media
  rw [← hkind₂] at hcommand
  have hpending₂ : s₂.sim.appPending = false := by rw [hsim₂]; exact hpending₁
  have hroom₂ : elapsed₁ + 3 * s₂.sim.pollsLeft ≤ 60 := by rw [hsim₂]; omega
  rw [← hclock₂] at helapsed₁
  apply ensures_course_bind
  apply ensures_attempt
  refine ((hasked₂.prompt.pollReady patience hcommand hpending₂ 0 deadline).and
    (ok_pollReady hasked₂.prompt hcommand hpending₂ 0 helapsed₁ hroom₂)).mono ?_
  rintro _ s₃ ⟨hready, rfl⟩
  obtain ⟨hasked₃, -⟩ := hready rfl
  have hanswer : R1.isAnswer R1.ready = true := by decide
  apply ensures_course_bind
  apply ensures_step
  refine (hasked₃.prompt.ask patience (by decide) _ hanswer (s₃.sim.asked_setBlockLen _) rfl).mono ?_
  rintro _ s₄ ⟨rfl, -, -⟩
  apply ensures_course_bind
  apply ensures_attempt
  refine (ok_requireReady _ s₄).mono ?_
  rintro _ s₅ rfl
  exact ensures_course_pure ⟨_, rfl⟩

/-- **The family** of a card in good order is found in time. -/
theorem ok_identifyFamily (h : Prompt s) (hidle : s.sim.idle = true)
    (hecho : s.sim.knobs.echo = ifCondPattern) (hocr : s.sim.knobs.failReadOcr = false)
    (hpolls : s.sim.pollsLeft ≤ 15) (hregular : Regular s.env.clock) :
    Ensures (identifyFamily patience).run s fun result _ => ∃ family, result = .ok family := by
  -- a second is sixty ticks, for all attempts together
  have hticks : (min (ticksOfMillis initTimeout s.env.clock.rate) horizon).toNat = 60 := by
    rw [hregular.rate]
    decide
  have helapsed := elapsed_start hregular.step initTimeout
  rw [hticks] at helapsed
  apply ensures_course_bind
  apply ensures_step
  apply ensures_startDeadline
  apply ensures_course_bind
  apply ensures_step
  refine (h.refl.ticked.reportAtOnce _).mono ?_
  rintro _ s₂ ⟨⟨hasked₂, hsim₂⟩, hclock₂⟩
  have hsim₂ : s₂.sim = s.sim := hsim₂
  have hclock₂ : s₂.env.clock = (TickSource.now s.env.clock).2 := hclock₂
  have hidle₂ : s₂.sim.idle = true := by rw [hsim₂]; exact hidle
  have hecho₂ : s₂.sim.knobs.echo = ifCondPattern := by rw [hsim₂]; exact hecho
  rw [← hclock₂] at helapsed
  apply ensures_course_bind
  apply ensures_step
  refine ((hasked₂.prompt.echoesInterface patience hidle₂ hecho₂).and
    hasked₂.prompt.spent_echoesInterface).mono ?_
  rintro echoes s₃ ⟨⟨hasked₃, hpending₃, hpolls₃, hechoes⟩, hspent₃⟩
  rw [hsim₂] at hpolls₃ hechoes
  obtain ⟨elapsed₃, -, hmost, helapsed₃⟩ := helapsed.spent hspent₃
  have hasked₃ : Asked s s₃ := hasked₂.trans hasked₃
  have hversion₃ : s₃.sim.isVersion2 = s.sim.isVersion2 :=
    SimCard.isVersion2_of_media hasked₃.media
  have hocr₃ : s₃.sim.knobs.failReadOcr = false := by
    rw [SimCard.knobs_of_media hasked₃.media]
    exact hocr
  cases echoes with
  | true =>
    dsimp only
    rw [if_pos rfl]
    apply ensures_course_bind
    apply ensures_step
    refine (hasked₃.reportAtOnce _).mono ?_
    rintro _ s₄ ⟨⟨hasked₄, hsim₄⟩, hclock₄⟩
    rw [← hsim₄] at hversion₃ hpending₃ hocr₃ hpolls₃
    rw [← hclock₄] at helapsed₃
    exact ok_identifyVersion2 hasked₄.prompt (by rw [hversion₃, hechoes]) hpending₃ hocr₃ helapsed₃
      (by omega)
  | false =>
    dsimp only
    rw [if_neg (by decide)]
    exact ok_identifyLegacy hasked₃.prompt (by rw [hversion₃, hechoes]) hpending₃ helapsed₃
      (by omega)

/-- A register is read if the clock does not run out behind its first idle byte. -/
theorem ok_readRegister (h : Prompt s) {command : Command} (hplain : Command.Plain command.index)
    (happ : command.app = false) {register : List UInt8} (hlength : register.length = registerSize)
    (hexecute : s.sim.asked.execute command.index 0 s.sim.appPending =
      s.sim.asked.respondRegister register) (hregular : Regular s.env.clock) :
    Ensures (readRegister patience command).run s fun result _ => ∃ bytes, result = .ok bytes := by
  apply ensures_course_bind
  apply ensures_step
  refine (h.askRegister patience hplain happ hexecute).mono ?_
  rintro _ s₁ ⟨rfl, hsim₁, hasked₁⟩
  apply ensures_course_bind
  apply ensures_attempt
  refine ((hasked₁.requireReady command.index R1.ready).and (ok_requireReady _ s₁)).mono ?_
  rintro _ s₂ ⟨⟨⟨hasked₂, hsim₂⟩, -⟩, rfl⟩
  rw [hsim₁] at hsim₂
  have hregular₂ := hregular.served hasked₂.served
  have hpatient : Patient 1 s₂.env.clock :=
    (patient_counter hregular₂.step hregular₂.rate).mono (by decide)
  apply ensures_course_bind
  apply ensures_attempt
  refine (clean_receiveRegister patience hasked₂.prompt.clean hlength hsim₂).mono ?_
  rintro result s₃ ⟨-, ⟨rfl, -⟩ | ⟨-, hlate⟩⟩
  · apply ensures_course_bind
    apply ensures_step
    apply ensures_any
    intro _ s₄
    exact ensures_course_pure ⟨_, rfl⟩
  · exact absurd hpatient hlate

end Steps

/-! ## All of it -/

omit [CardBoard H] [TickSource C] in
/-- A size of the card is accepted exactly if it is supported. -/
theorem exact_requireSize {α : Type} (size : Except Csd.SizeFault α) (s : Session (Channel H) C) :
    Ensures (requireSize size) s fun result _ => result = size.mapError fun _ => .unsupported := by
  cases size with
  | ok value => exact ensures_pure rfl
  | error fault =>
    apply ensures_bind
    apply ensures_report
    exact ensures_pure rfl

end ChannelM

/-- The settings of a card that is there and behaves as it should until it is identified. -/
structure SimKnobs.Orderly (knobs : SimKnobs) : Prop where
  present : knobs.present = true
  echo : knobs.echo = ifCondPattern
  gap : knobs.responseGap ≤ 9
  polls : knobs.initPolls ≤ 15
  conditions : knobs.failReadOcr = false

/-- The specific data that a card sends, read in the layout of its kind. -/
def SimCard.sentCsd (card : SimCard) : Csd :=
  Csd.decode card.kind.family.csdLayout card.csd.encode

/-- A card in good order that is not busy, behind a channel that is bound and has no rival, on a board
    that fails no call. What the card was last used for is open. -/
structure InGoodOrder {H : Type} [CardBoard H] (s : Session (Channel H) Counter) : Prop where
  clean : s.Clean
  bound : s.device.line ≠ none
  alone : ChannelM.Alone s
  regular : ChannelM.Regular s.env.clock
  knobs : s.sim.knobs.Orderly
  free : s.sim.busy = .bytes 0

namespace ChannelM

open SessionM CardEngine

variable {H : Type} [CardBoard H] {s : Session (Channel H) Counter} {patience : Nat}

omit [CardBoard H] in
/-- A card whose capacity is supported has blocks that are, so that one check decides both. -/
theorem exact_sizes (csd : Csd) (make : UInt32 → UInt8 → CardInfo) (s : Session (Channel H) Counter) :
    Ensures (do
        let total ← attempt (requireSize csd.totalSectors)
        let blockLog ← attempt (requireSize csd.blockLenLog2)
        pure (make total blockLog) : CardM H Counter CardInfo).run s fun result _ =>
      match csd.totalSectors with
      | .ok _ => ∃ info, result = .ok info
      | .error _ => result = .error .unsupported := by
  apply ensures_course_bind
  apply ensures_attempt
  refine (exact_requireSize _ s).mono ?_
  rintro _ s₁ rfl
  cases htotal : csd.totalSectors with
  | error fault => exact rfl
  | ok total =>
    obtain ⟨blockLog, hlog⟩ := Csd.blockLenLog2_of_totalSectors htotal
    apply ensures_course_bind
    apply ensures_attempt
    refine (exact_requireSize _ s₁).mono ?_
    rintro _ s₂ rfl
    rw [hlog]
    exact ensures_course_pure ⟨_, rfl⟩

/-- **Identification** of a card in good order fails only because its sizes are not supported. -/
theorem exact_identify (h : InGoodOrder s) :
    Ensures (identify patience).run s fun result _ =>
      match s.sim.sentCsd.totalSectors with
      | .ok _ => ∃ info, result = .ok info
      | .error _ => result = .error .unsupported := by
  have hknobs := h.knobs
  have hgap : s.sim.knobs.responseGap < responsePolls := Nat.lt_succ_of_le hknobs.gap
  apply ensures_course_bind
  apply ensures_attempt
  refine ((clean_resetCard patience h.clean).and
    (ok_resetCard h.clean h.bound hknobs.present hgap h.free)).mono ?_
  rintro _ s₁ ⟨hreset, rfl⟩
  obtain ⟨hprompt₁, hidle₁, hpolls₁, hmedia₁, hserved₁⟩ := hreset rfl
  have hknobs₁ : s₁.sim.knobs = s.sim.knobs := SimCard.knobs_of_media hmedia₁
  rw [← hknobs₁] at hknobs
  have hregular₁ := h.regular.served hserved₁
  apply ensures_course_bind
  refine ((hprompt₁.identifyFamily patience hidle₁ hknobs.echo).and
    (ok_identifyFamily hprompt₁ hidle₁ hknobs.echo hknobs.conditions
      (by rw [hpolls₁, ← hknobs₁]; exact hknobs.polls) hregular₁)).mono ?_
  rintro _ s₂ ⟨hfamily, family, rfl⟩
  obtain ⟨hfamily, hasked₂, -⟩ := hfamily family rfl
  have hregular₂ := hregular₁.served hasked₂.served
  apply ensures_course_bind
  apply ensures_step
  refine (hasked₂.report _).mono ?_
  rintro _ s₃ ⟨hasked₃, hsim₃⟩
  have hregular₃ := hregular₁.served hasked₃.served
  have hcid := s₃.sim.asked_sendCid 0 s₃.sim.appPending
  apply ensures_course_bind
  refine ((hasked₃.prompt.readRegister patience (by decide) rfl s₃.sim.length_cid hcid).and
    (ok_readRegister hasked₃.prompt (by decide) rfl s₃.sim.length_cid hcid hregular₃)).mono ?_
  rintro _ s₄ ⟨hread₄, cid, rfl⟩
  obtain ⟨-, hasked₄, -⟩ := hread₄ cid rfl
  have hregular₄ := hregular₃.served hasked₄.served
  have hcsd := s₄.sim.asked_sendCsd 0 s₄.sim.appPending
  apply ensures_course_bind
  refine ((hasked₄.prompt.readRegister patience (by decide) rfl s₄.sim.length_csd hcsd).and
    (ok_readRegister hasked₄.prompt (by decide) rfl s₄.sim.length_csd hcsd hregular₄)).mono ?_
  rintro _ s₅ ⟨hread₅, bytes, rfl⟩
  obtain ⟨rfl, -, -⟩ := hread₅ bytes rfl
  -- what was read is what the card sends, in the layout of its kind
  have hmedia₄ : s₄.sim.media = s.sim.media := by
    rw [hasked₄.media, hasked₃.media, hmedia₁]
  have hsent : Csd.decode family.csdLayout s₄.sim.csd.encode = s.sim.sentCsd := by
    rw [hfamily, SimCard.csd_of_media hmedia₄, SimCard.kind_of_media hmedia₁]
    rfl
  dsimp only
  rw [hsent]
  exact exact_sizes s.sim.sentCsd _ s₅

end ChannelM

namespace Card

open SessionM ChannelM

variable {H : Type} [CardBoard H] {s : Session (Card H) Counter} {patience : Nat}

/-- Bringing up a card in good order fails only because its sizes are not supported. -/
theorem exact_bringUp (h : InGoodOrder (s.at Card.channel)) :
    Ensures (bringUp patience) s fun result _ =>
      match (s.at Card.channel).sim.sentCsd.totalSectors with
      | .ok _ => result = .ok ()
      | .error _ => result = .error .unsupported := by
  have hspeed : Ensures (ChannelM.setSpeed .slow) (s.at Card.channel) fun _ s₁ =>
      InGoodOrder s₁ ∧ s₁.sim = (s.at Card.channel).sim :=
    ensures_onDevice ⟨⟨h.clean, h.bound, h.alone, h.regular, h.knobs, h.free⟩, rfl⟩
  apply ensures_bind
  apply ensures_forget
  refine Ensures.bind (ensures_onChannel hspeed) ?_
  rintro _ s₁ ⟨hslow₁, hsim₁⟩
  refine (ensures_onChannel (exact_identify hslow₁)).bind ?_
  intro outcome s₂ houtcome
  rw [hsim₁] at houtcome
  apply ensures_bind
  apply ensures_any
  intro _ s₃
  cases htotal : (s.at Card.channel).sim.sentCsd.totalSectors with
  | ok total =>
    rw [htotal] at houtcome
    obtain ⟨info, rfl⟩ := houtcome
    exact ensures_bind (ensures_any fun _ _ => ensures_bind (ensures_any fun _ _ =>
      ensures_bind (ensures_any fun _ _ => ensures_pure rfl)))
  | error fault =>
    rw [htotal] at houtcome
    obtain rfl : outcome = .error .unsupported := houtcome
    exact ensures_bind (ensures_any fun _ _ => ensures_pure rfl)

/-- **Bringing up a card in good order,** whatever it was last used for and whatever was known of the
    card before: it succeeds exactly if the sizes that the card sends are supported, and then all that is
    known of the card is what it sends; the identification is the card's own if it fits the register. -/
theorem bringUp_exact (hpatience : horizon.toNat ≤ patience) (h : InGoodOrder (s.at Card.channel)) :
    let card := (s.at Card.channel).sim
    ∃ result s', bringUp patience s = some (result, s') ∧
      match card.sentCsd.totalSectors with
      | .error _ => result = .error .unsupported
      | .ok total => result = .ok () ∧
        s'.device.info.family = card.kind.family ∧
        s'.device.info.cid = Cid.decode card.cid.encode ∧
        (card.cid.Fits → s'.device.info.cid = card.cid) ∧
        s'.device.info.csd = card.sentCsd ∧
        s'.device.info.totalSectors = total ∧
        card.sentCsd.blockLenLog2 = .ok s'.device.info.blockLog := by
  intro card
  obtain ⟨result, s', hrun⟩ :=
    returns_bringUp hpatience ⟨⟨h.alone, h.regular.step⟩, h.regular.rate⟩
  have hexact := exact_bringUp h result s' hrun
  have hup := clean_bringUp patience h.clean h.knobs.echo result s' hrun
  refine ⟨result, s', hrun, ?_⟩
  dsimp only at hexact
  split
  · rename_i fault htotal
    rw [htotal] at hexact
    exact hexact
  · rename_i total htotal
    rw [htotal] at hexact
    obtain ⟨hbrought, -⟩ := hup hexact
    have hidentified := hbrought.identified
    have hsent : s'.device.info.csd = card.sentCsd := by
      rw [hidentified.csd, hidentified.family]
      rfl
    have hsize := hidentified.size
    rw [hsent, htotal] at hsize
    refine ⟨hexact, hidentified.family, hidentified.cid, ?_, hsent, (Except.ok.inj hsize).symm, ?_⟩
    · intro hfits
      rw [hidentified.cid, Cid.decode_encode_reduced, Cid.reduced_of_fits hfits]
    · rw [← hsent]
      exact hidentified.block

/-- A card that was left in the middle of a block, with output pending and an application command
    announced, is brought up in place of the one that was known before. -/
theorem bringUp_exact_leftovers :
    let knobs : SimKnobs := { responseGap := 9, initPolls := 15, tokenlessRead := true }
    let card : SimCard := { SimCard.new .sd1 with
      knobs, selected := true, idle := false, appPending := true, phase := .block 3 true [1, 2, 3],
      stream := some 7, out := [0x00, 0xFE] }
    let device : Card SimCard :=
      { channel := { host := card, line := some .two, speed := .fast, owns := true },
        info := { family := .sdhc, totalSectors := 5 } }
    ∃ s', bringUp 200 ⟨device, { bus := { held := true }, clock := { value := 250 : Counter } }⟩ =
        some (.ok (), s') ∧
      s'.device.info.family = .sd1 ∧ s'.device.info.totalSectors = 1966080 ∧
      s'.device.info.cid = SimCard.sampleCid := by
  intro knobs card device
  let env : Env Counter := { bus := { held := true }, clock := { value := 250 } }
  have horder : InGoodOrder (Session.at ⟨device, env⟩ Card.channel) :=
    ⟨trivial, nofun, rfl, ⟨rfl, rfl⟩, ⟨rfl, rfl, by decide, by decide, rfl⟩, rfl⟩
  have hfits : card.cid.Fits := ⟨by decide, by decide, by decide⟩
  have htotal : (Session.at ⟨device, env⟩ Card.channel).sim.sentCsd.totalSectors = .ok 1966080 := by
    decide +kernel
  have hpatience : horizon.toNat ≤ 200 := by decide
  obtain ⟨result, s', hrun, hfound⟩ := bringUp_exact hpatience horder
  rw [htotal] at hfound
  obtain ⟨rfl, hfamily, -, hcid, -, hsize, -⟩ := hfound
  exact ⟨s', hrun, hfamily, hsize, hcid hfits⟩

end Card

end SpiDisk
