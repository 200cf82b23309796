import SpiDisk.Proofs.Sim.Hearing

/-!
# `SpiDisk.Proofs.Sim.Recognition` — identifying a card on a board that fails

What a channel is told in the place of bytes that a board failed to read are idle bytes, and the bytes of
a register are taken for what they are told to be. So an identification on a board that fails reads can
succeed with what the card is not. A board that only loses what it is to write does less harm: whatever is
read is what the card said, and a command that was lost went without an answer. A card is still found to
be of another kind than it is if it did not hear that it was asked for its interface condition: it is
brought up the older way then, and a card of version 2 is found to be one of version 1.

## Contents
- **Answers.** What the answers to the commands of an identification tell.
- **Reset.** `hearing_resetCard`, behind which the card is `Attentive`.
- **Family.** `Attentive.identifyFamily`, one that the card is `TakenFor`.
- **Registers.** `Attentive.readRegister` and `hearing_identify`.
- **Cards.** `Card.recognized_of_bringUp`, and the identification that fails it, `Card.misrecognized`.
-/

namespace SpiDisk

namespace ChannelM

open SessionM CardEngine

variable {H C : Type} [CardBoard H] [TickSource C] {s s' : Session (Channel (Faulty H)) C}

/-! ## Answers -/

omit [TickSource C] in
/-- Only a channel that owns the bus has its card selected. -/
theorem Attentive.owns_of_selected (h : Attentive s) (hselected : s.sim.selected = true) :
    s.device.owns = true := by
  cases howns : s.device.owns with
  | true => rfl
  | false =>
    rw [← h.settled howns] at hselected
    cases hselected

/-- What moving bytes leaves of a card that is selected. -/
theorem Tried.moved {s'' : Session (Channel (Faulty H)) C} {readings : Nat} (h : Tried s s')
    (hmoved : Moved readings s'.repaired s''.repaired) (hselected : s'.sim.selected = true)
    (hmedia : s''.sim.media = s'.sim.media) (hfree : s''.sim.busy = .bytes 0) : Tried s s'' := by
  have howns : s''.device.owns = true :=
    Eq.trans hmoved.owns (h.attentive.owns_of_selected hselected)
  have hhearing : Hearing s'' := hmoved.clean h.attentive.hearing
  exact ⟨h.attentive.served hmoved.served hhearing (settled_of_owns howns) hmedia hfree,
    hmedia.trans h.media⟩

omit [TickSource C] in
/-- What is noted and what the clock says are nothing to the card. -/
theorem Tried.told (h : Tried s s') (log : Logger) (clock : C) :
    Tried s { s' with env.log := log, env.clock := clock } :=
  ⟨⟨h.attentive.hearing, h.attentive.bound, h.attentive.settled, h.attentive.present,
    h.attentive.gap, h.attentive.free⟩, h.media⟩

omit [TickSource C] in
theorem Tried.report {N : Type} [Diagnostic N] (h : Tried s s') (event : N) :
    Ensures (report event) s' fun _ s'' => Tried s s'' ∧ s''.sim = s'.sim :=
  ensures_report ⟨h.told _ s'.env.clock, rfl⟩

omit [TickSource C] in
/-- Going on behind a status leaves the card alone. -/
theorem Tried.requireReady (h : Tried s s') (index r1 : UInt8) :
    Ensures (requireReady index r1) s' fun result s'' =>
      (Tried s s'' ∧ s''.sim = s'.sim) ∧ (result = .ok () → r1 = R1.ready) := by
  refine ensures_requireReady (J := fun s'' => Tried s s'' ∧ s''.sim = s'.sim) ?_ index r1 ⟨h, rfl⟩
  rintro s'' log ⟨htried, hsim⟩
  exact ⟨htried.told log s''.env.clock, hsim⟩

/-- A word that is pending is read as it is. -/
theorem Tried.readWord (h : Tried s s') {card : SimCard} (hselected : card.selected = true)
    {word : UInt32} (hsim : s'.sim = card.saying (Command.argumentBytes word)) :
    Ensures readWord s' fun result s'' => result = word ∧ Tried s s'' := by
  have hclean : s'.repaired.Clean := h.attentive.hearing
  have hreads : Reads (CardEngine.readWord : ChannelM (Faulty H) C UInt32) := reads_readWord
  refine (hreads.ensures (clean_readWord hclean hselected hsim)).mono ?_
  rintro result s'' ⟨hword, hsim', hmoved⟩
  have hsim' : s''.sim = card.saying [] := hsim'
  refine ⟨hword, h.moved hmoved ?_ ?_ ?_⟩
  · rw [hsim]
    exact hselected
  · rw [hsim', hsim]
    rfl
  · have hfree := h.attentive.free
    rw [hsim] at hfree
    rw [hsim']
    exact hfree

/-- A card that does not know a command refuses it, whether or not it hears it. -/
theorem Attentive.refuses (h : Attentive s) (patience : Nat) {index : UInt8}
    (hindex : Command.Plain index) (argument : UInt32)
    (hexecute : s.sim.asked.execute index argument s.sim.appPending =
      s.sim.asked.answer s.sim.illegal []) :
    Ensures (sendPlain patience index argument) s fun r1 s' => Tried s s' ∧ r1 > R1.idle := by
  refine (h.ask patience hindex argument s.sim.isAnswer_illegal
    (congrArg SimCard.core hexecute)).mono ?_
  rintro r1 s' ⟨htried, ⟨rfl, -⟩ | rfl⟩
  · exact ⟨htried, s.sim.illegal_gt⟩
  · exact ⟨htried, by decide⟩

theorem Attentive.send (h : Attentive s) (patience : Nat) {command : Command}
    (hindex : Command.Plain command.index) (argument : UInt32) :
    Ensures (send patience command argument) s fun _ s' => Tried s s' := by
  unfold CardEngine.send
  split
  · refine (h.tries patience (by decide) 0).bind ?_
    intro notice s₁ htried₁
    split
    · exact ensures_pure htried₁
    · refine (htried₁.attentive.tries patience hindex argument).mono ?_
      exact fun _ _ htried₂ => htried₁.trans htried₂
  · exact h.tries patience hindex argument

/-- **An attempt to bring the card up** is taken well only if it is made by the command that the kind of
    the card has for it. -/
theorem Attentive.attempt (h : Attentive s) (patience : Nat) {command : Command}
    (hcommand : command = Command.appSendOpCond ∨ command = Command.sendOpCond)
    (argument : UInt32) :
    Ensures (CardEngine.send patience command argument) s fun r1 s' =>
      Tried s s' ∧ (r1 ≤ R1.idle → BringsUp s.sim.kind command) := by
  rcases hcommand with rfl | rfl
  · refine ((h.send patience (by decide) argument).and ?_)
    by_cases hkind : s.sim.kind = .mmc
    -- the notice is refused or lost, so that the command behind it is never sent
    · unfold CardEngine.send
      rw [if_pos (by decide)]
      refine (h.refuses patience (by decide) 0 (SimCard.asked_appNotice_mmc hkind 0 _)).bind ?_
      rintro notice s₁ ⟨-, hgt⟩
      rw [if_pos hgt]
      exact ensures_pure fun hle => absurd hgt (UInt8.not_lt.mpr hle)
    · exact ensures_any fun _ _ _ => .inl ⟨hkind, rfl⟩
  · refine ((h.send patience (by decide) argument).and ?_)
    by_cases hkind : s.sim.kind = .mmc
    · exact ensures_any fun _ _ _ => .inr ⟨hkind, rfl⟩
    · unfold CardEngine.send
      rw [if_neg (by decide)]
      refine (h.refuses patience (by decide) argument ?_).mono ?_
      · exact SimCard.asked_sendOpCond_other hkind argument _
      · rintro r1 s' ⟨-, hgt⟩ hle
        exact absurd hgt (UInt8.not_lt.mpr hle)

/-- A card that is ready in the end was brought up by the command that its kind has for it. -/
theorem Attentive.pollReady (h : Attentive s) (patience : Nat) {command : Command}
    (hcommand : command = Command.appSendOpCond ∨ command = Command.sendOpCond)
    (argument : UInt32) (deadline : Deadline) :
    Ensures (pollReady patience command argument deadline) s fun result s' =>
      result = .ok () → Tried s s' ∧ BringsUp s.sim.kind command := by
  refine (ensures_pollReady (P := fun s' => Tried s s') (Q := fun s' => Tried s s' ∧
    BringsUp s.sim.kind command) (R := fun _ => True) ?_ (fun _ h => h) h.refl).mono ?_
  · -- an attempt that was lost is as good as none: the card is only ever tried
    intro s₁ htried₁
    have hkind : s₁.sim.kind = s.sim.kind := SimCard.kind_of_media htried₁.media
    refine (htried₁.attentive.attempt patience hcommand argument).mono ?_
    rintro r1 s₂ ⟨htried₂, hbrings⟩
    rw [hkind] at hbrings
    have htried₂ : Tried s s₂ := htried₁.trans htried₂
    by_cases hready : r1 = R1.ready
    · rw [if_pos hready]
      exact ⟨htried₂, hbrings (by rw [hready]; decide)⟩
    · rw [if_neg hready]
      split
      · trivial
      · exact htried₂.told s₂.env.log _
  · rintro (_ | _) s₁ h₁
    · exact nofun
    · exact fun _ => h₁

/-! ## Reset -/

/-- A card that answers the command to be idle as it should is one that hears. -/
theorem hearing_goIdle (patience : Nat) (h : Hearing s) (hsettled : Settled s) :
    Ensures (sendPlain patience Command.goIdle.index 0) s fun r1 s' => r1 = R1.idle →
      Attentive s' ∧ s'.sim.media = s.sim.media := by
  have hplain : Command.Plain Command.goIdle.index := by decide
  by_cases hline : s.device.line = none
  · refine (unbound_sendPlain patience hplain 0 hline hsettled).mono ?_
    rintro r1 _ rfl hno
    cases hno
  refine (hearing_sendPlain patience hplain.1 hplain.2.1 0 h hline hsettled).mono ?_
  rintro r1 s₁ ⟨hserved, h₁, hsettled₁, hpoll | ⟨hlost, -⟩⟩ hidle
  · obtain ⟨hpresent, hgap, hmedia, -, -, hfree⟩ := SimCard.poll_goIdle (hidle ▸ hpoll)
    have hknobs : s₁.sim.knobs = s.sim.knobs := SimCard.knobs_of_media hmedia
    have hbound : s₁.device.line = s.device.line := hserved.line
    refine ⟨⟨h₁, ?_, hsettled₁, ?_, ?_, hfree⟩, hmedia⟩
    · rw [hbound]
      exact hline
    · rw [hknobs]
      exact hpresent
    · rw [hknobs]
      exact hgap
  · rw [hlost] at hidle
    cases hidle

/-- **Reset.** A card that answers the reset is there and attentive. -/
theorem hearing_resetCard (patience : Nat) (h : Hearing s) :
    Ensures (resetCard patience) s fun result s' => result = .ok () →
      Attentive s' ∧ s'.sim.media = s.sim.media := by
  refine ((sim_powerUp patience s).and (hearing_invariant.upholds_powerUp patience s h).back).bind ?_
  rintro _ s₁ ⟨⟨hsim₁, howns₁, -⟩, h₁⟩
  refine ((sim_report _ s₁).and (keeps_report (J := Hearing) hearing_timed.log _ s₁ h₁)).bind ?_
  rintro _ s₂ ⟨⟨hsim₂, hmoved₂⟩, h₂⟩
  have hmedia₂ : s₂.sim.media = s.sim.media := by
    rw [hsim₂, hsim₁]
    rfl
  have hsettled₂ : Settled s₂ := settled_of_owns (hmoved₂.owns.trans howns₁)
  refine (hearing_goIdle patience h₂ hsettled₂).bind fun r1 s₃ h₃ => ?_
  split
  · obtain ⟨hattentive₃, hmedia₃⟩ := h₃ ‹_›
    exact ensures_pure fun _ => ⟨hattentive₃, hmedia₃.trans hmedia₂⟩
  · exact ensures_bind (ensures_any fun _ _ => ensures_pure nofun)

/-! ## Family -/

/-- What a card may be found to be that does not hear everything it is asked: what it is, or a card of
    version 1 in the place of one of version 2. -/
def TakenFor (card : SimCard) (family : Family) : Prop :=
  family = card.kind.family ∨ card.isVersion2 = true ∧ family = .sd1

theorem TakenFor.of_media {card other : SimCard} {family : Family} (h : TakenFor card family)
    (hmedia : card.media = other.media) : TakenFor other family := by
  unfold TakenFor SimCard.isVersion2 at h ⊢
  rw [← SimCard.kind_of_media hmedia]
  exact h

/-- What a card was brought up by tells what it may be found to be. -/
theorem BringsUp.takenFor {card : SimCard} {known : Prop} [Decidable known]
    (h : BringsUp card.kind (if known then Command.appSendOpCond else Command.sendOpCond)) :
    TakenFor card (if known then .sd1 else .mmc) := by
  by_cases hknown : known
  · rw [if_pos hknown] at h ⊢
    -- any card but a MultiMediaCard knows the command, so a card of version 2 passes for one of version 1
    rcases h with ⟨hkind, -⟩ | ⟨-, hno⟩
    · unfold TakenFor SimCard.isVersion2
      cases hkinds : card.kind with
      | sdhc => exact .inr ⟨rfl, rfl⟩
      | sd2 => exact .inr ⟨rfl, rfl⟩
      | sd1 => exact .inl rfl
      | mmc => exact absurd hkinds hkind
    · exact absurd hno (by decide)
  · rw [if_neg hknown] at h ⊢
    rcases h with ⟨-, hno⟩ | ⟨hkind, -⟩
    · exact absurd hno (by decide)
    · rw [TakenFor, hkind]
      exact .inl rfl

/-- Only a version 2 card echoes the interface condition. -/
theorem Attentive.echoesInterface (h : Attentive s) (patience : Nat) :
    Ensures (echoesInterface patience) s fun echoes s' =>
      Tried s s' ∧ (echoes = true → s.sim.isVersion2 = true) := by
  have hplain : Command.Plain Command.sendIfCond.index := by decide
  cases hversion : s.sim.isVersion2 with
  | true =>
    have hexecute := congrArg SimCard.core
      (SimCard.asked_sendIfCond_new hversion ifCondPattern s.sim.appPending)
    refine (h.ask patience hplain ifCondPattern s.sim.isAnswer_status hexecute).bind ?_
    rintro r1 s₁ ⟨htried₁, ⟨rfl, hsim₁⟩ | rfl⟩
    · split
      · refine (htried₁.readWord (show s.sim.asked.selected = true from rfl) hsim₁).bind ?_
        rintro word s₂ ⟨-, htried₂⟩
        exact ensures_pure ⟨htried₂, fun _ => rfl⟩
      · exact ensures_pure ⟨htried₁, fun _ => rfl⟩
    · rw [if_neg (by decide)]
      exact ensures_pure ⟨htried₁, fun _ => rfl⟩
  | false =>
    refine (h.refuses patience hplain ifCondPattern
      (SimCard.asked_sendIfCond_old hversion _ _)).bind ?_
    rintro r1 s₁ ⟨htried₁, hgt⟩
    have hrefused : r1 ≠ R1.idle := (UInt8.ne_of_lt hgt).symm
    rw [if_neg hrefused]
    exact ensures_pure ⟨htried₁, nofun⟩

/-- **The older way** finds out an older card to be what it is, and a card of version 2 to be one of
    version 1. -/
theorem Attentive.identifyLegacy (h : Attentive s) (patience : Nat) (deadline : Deadline) :
    Ensures (identifyLegacy patience deadline).run s fun result s' => ∀ family,
      result = .ok family → TakenFor s.sim family ∧ Tried s s' := by
  refine ensures_course_bind (ensures_step ((h.send patience (by decide) 0).mono ?_))
  intro probe s₁ htried₁
  refine ensures_course_bind (ensures_step ((htried₁.report _).mono ?_))
  rintro _ s₂ ⟨htried₂, -⟩
  have hkind₂ : s₂.sim.kind = s.sim.kind := SimCard.kind_of_media htried₂.media
  -- which of the two is repeated hangs on the probe, which may have been lost
  have hcommand : (if probe ≤ R1.idle then Command.appSendOpCond else Command.sendOpCond) =
      Command.appSendOpCond ∨
        (if probe ≤ R1.idle then Command.appSendOpCond else Command.sendOpCond) =
          Command.sendOpCond := by
    split
    · exact .inl rfl
    · exact .inr rfl
  refine ensures_course_bind (ensures_attempt
    ((htried₂.attentive.pollReady patience hcommand 0 deadline).mono ?_))
  rintro (error | _) s₃ hready
  · exact nofun
  obtain ⟨htried₃, hbrings⟩ := hready rfl
  rw [hkind₂] at hbrings
  have htried₃ : Tried s s₃ := htried₂.trans htried₃
  refine ensures_course_bind (ensures_step
    ((htried₃.attentive.send patience (by decide) _).mono ?_))
  intro r1 s₄ htried₄
  refine ensures_course_bind (ensures_attempt (((htried₃.trans htried₄).requireReady _ _).mono ?_))
  rintro (error | _) s₅ ⟨⟨htried₅, -⟩, -⟩
  · exact nofun
  apply ensures_course_pure
  rintro family ⟨⟩
  exact ⟨hbrings.takenFor, htried₅⟩

/-- The status in front of the conditions is that of a card which goes on to tell them. -/
theorem Attentive.askConditions (h : Attentive s) (patience : Nat) :
    Ensures (CardEngine.send patience Command.readOcr 0) s fun r1 s' =>
      Tried s s' ∧ (r1 = R1.ready →
        s'.sim = s.sim.asked.saying (Command.argumentBytes s.sim.conditions)) := by
  have hplain : Command.Plain Command.readOcr.index := by decide
  have hexecute := s.sim.asked_readOcr 0 s.sim.appPending
  unfold CardEngine.send
  rw [if_neg (by decide)]
  cases hfail : s.sim.knobs.failReadOcr with
  | true =>
    rw [hfail, if_pos rfl] at hexecute
    refine (h.refuses patience hplain 0 hexecute).mono ?_
    rintro r1 s₁ ⟨htried₁, hgt⟩
    refine ⟨htried₁, ?_⟩
    rintro rfl
    exact absurd hgt (by decide)
  | false =>
    rw [hfail, if_neg (by decide)] at hexecute
    refine (h.ask patience hplain 0 s.sim.isAnswer_status (congrArg SimCard.core hexecute)).mono ?_
    rintro r1 s₁ ⟨htried₁, ⟨-, hsim₁⟩ | rfl⟩
    · exact ⟨htried₁, fun _ => hsim₁⟩
    · exact ⟨htried₁, nofun⟩

/-- The conditions of a card of version 2 tell what it is. -/
theorem Attentive.identifyVersion2 (h : Attentive s) (patience : Nat)
    (hversion : s.sim.isVersion2 = true) (deadline : Deadline) :
    Ensures (identifyVersion2 patience deadline).run s fun result s' => ∀ family,
      result = .ok family → family = s.sim.kind.family ∧ Tried s s' := by
  refine ensures_course_bind (ensures_step ((h.refl.report _).mono ?_))
  rintro _ s₁ ⟨htried₁, -⟩
  refine ensures_course_bind (ensures_attempt
    ((htried₁.attentive.pollReady patience (.inl rfl) highCapacitySupport deadline).mono ?_))
  rintro (error | _) s₂ hready
  · exact nofun
  have htried₂ : Tried s s₂ := htried₁.trans (hready rfl).1
  refine ensures_course_bind (ensures_step ((htried₂.attentive.askConditions patience).mono ?_))
  rintro r1 s₃ ⟨htried₃, hanswer⟩
  refine ensures_course_bind (ensures_attempt
    (((htried₂.trans htried₃).requireReady _ _).mono ?_))
  rintro (error | _) s₄ ⟨⟨htried₄, hsim₄⟩, hgo⟩
  · exact nofun
  rw [hanswer (hgo rfl)] at hsim₄
  refine ensures_course_bind (ensures_step
    ((htried₄.readWord (show s₂.sim.asked.selected = true from rfl) hsim₄).mono ?_))
  rintro _ s₅ ⟨rfl, htried₅⟩
  refine ensures_course_bind (ensures_step ((htried₅.report _).mono ?_))
  rintro _ s₆ ⟨htried₆, -⟩
  apply ensures_course_pure
  rintro family ⟨⟩
  refine ⟨?_, htried₆⟩
  rw [← SimCard.kind_of_media htried₂.media]
  apply SimCard.family_of_conditions
  rw [SimCard.isVersion2_of_media htried₂.media]
  exact hversion

/-- **The family** that is found is one that the card may be taken for. -/
theorem Attentive.identifyFamily (h : Attentive s) (patience : Nat) :
    Ensures (identifyFamily patience).run s fun result s' => ∀ family,
      result = .ok family → TakenFor s.sim family ∧ Tried s s' := by
  refine ensures_course_bind (ensures_step (ensures_startDeadline ?_))
  have htried₁ := h.refl.told s.env.log (TickSource.now s.env.clock).2
  refine ensures_course_bind (ensures_step ((htried₁.report _).mono ?_))
  rintro _ s₂ ⟨htried₂, hsim₂⟩
  refine ensures_course_bind (ensures_step ((htried₂.attentive.echoesInterface patience).mono ?_))
  rintro echoes s₃ ⟨htried₃, hechoes⟩
  rw [hsim₂] at hechoes
  have htried₃ : Tried s s₃ := htried₂.trans htried₃
  cases echoes with
  | true =>
    dsimp only
    rw [if_pos rfl]
    refine ensures_course_bind (ensures_step ((htried₃.report _).mono ?_))
    rintro _ s₄ ⟨htried₄, -⟩
    have hkind₄ : s₄.sim.kind = s.sim.kind := SimCard.kind_of_media htried₄.media
    have hversion₄ : s₄.sim.isVersion2 = true := by
      rw [SimCard.isVersion2_of_media htried₄.media]
      exact hechoes rfl
    refine (htried₄.attentive.identifyVersion2 patience hversion₄ _).mono ?_
    intro result s₅ h₅ family hfamily
    obtain ⟨hkind, htried₅⟩ := h₅ family hfamily
    exact ⟨.inl (by rw [hkind, hkind₄]), htried₄.trans htried₅⟩
  | false =>
    dsimp only
    rw [if_neg (by decide)]
    refine (htried₃.attentive.identifyLegacy patience _).mono ?_
    intro result s₄ h₄ family hfamily
    obtain ⟨htaken, htried₄⟩ := h₄ family hfamily
    exact ⟨htaken.of_media htried₃.media, htried₃.trans htried₄⟩

/-! ## Registers -/

/-- An idle line is not a status that lets the channel go on, so whoever does has asked for the register
    and was heard. -/
theorem Attentive.askRegister (h : Attentive s) (patience : Nat) {command : Command}
    (hplain : Command.Plain command.index) (happ : command.app = false) {register : List UInt8}
    (hexecute : s.sim.asked.execute command.index 0 s.sim.appPending =
      s.sim.asked.respondRegister register) :
    Ensures (CardEngine.send patience command 0) s fun r1 s' =>
      Tried s s' ∧ (r1 = R1.ready →
        s'.sim = s.sim.asked.saying (idleByte :: SimCard.registerBlock register)) := by
  have hanswer : R1.isAnswer R1.ready = true := by decide
  have hexecute := hexecute.trans (SimCard.asked_register register)
  unfold CardEngine.send
  rw [happ, if_neg (by decide)]
  refine (h.ask patience hplain 0 hanswer (congrArg SimCard.core hexecute)).mono ?_
  rintro r1 s₁ ⟨htried₁, ⟨-, hsim₁⟩ | rfl⟩
  · exact ⟨htried₁, fun _ => hsim₁⟩
  · exact ⟨htried₁, nofun⟩

/-- A register that is read is the one that the card holds. -/
theorem Attentive.readRegister (h : Attentive s) (patience : Nat) {command : Command}
    (hplain : Command.Plain command.index) (happ : command.app = false) {register : List UInt8}
    (hlength : register.length = registerSize)
    (hexecute : s.sim.asked.execute command.index 0 s.sim.appPending =
      s.sim.asked.respondRegister register) :
    Ensures (readRegister patience command).run s fun result s' => ∀ bytes,
      result = .ok bytes → bytes = register ∧ Tried s s' := by
  refine ensures_course_bind (ensures_step ((h.askRegister patience hplain happ hexecute).mono ?_))
  rintro r1 s₁ ⟨htried₁, hanswer⟩
  refine ensures_course_bind (ensures_attempt ((htried₁.requireReady _ _).mono ?_))
  rintro (error | _) s₂ ⟨⟨htried₂, hsim₂⟩, hgo⟩
  · exact nofun
  rw [hanswer (hgo rfl)] at hsim₂
  have hclean : s₂.repaired.Clean := htried₂.attentive.hearing
  have hreads : Reads (receiveBlock patience registerSize :
      ChannelM (Faulty H) C (Except CardError (List UInt8))) :=
    reads_receiveBlock patience registerSize
  refine ensures_course_bind (ensures_attempt ((hreads.ensures (clean_receiveRegister patience
    hclean hlength hsim₂)).mono ?_))
  rintro (error | bytes) s₃ ⟨⟨readings, hmoved₃⟩, hresult⟩
  · exact nofun
  rcases hresult with ⟨hbytes, hsim₃⟩ | ⟨hno, -⟩
  · cases hbytes
    have hsim₃ : s₃.sim = s.sim.asked.saying [] := hsim₃
    have htried₃ : Tried s s₃ := by
      apply htried₂.moved hmoved₃
      · rw [hsim₂]
        rfl
      · rw [hsim₃, hsim₂]
        rfl
      · rw [hsim₃]
        rfl
    refine ensures_course_bind (ensures_step ((htried₃.report _).mono ?_))
    rintro _ s₄ ⟨htried₄, -⟩
    apply ensures_course_pure
    rintro bytes ⟨⟩
    exact ⟨rfl, htried₄⟩
  · cases hno

/-- What is known of a card that may not have heard everything: all but its family is as the card has
    it. -/
structure Recognized (card : SimCard) (info : CardInfo) : Prop where
  family : TakenFor card info.family
  cid : info.cid = Cid.decode card.cid.encode
  csd : info.csd = Csd.decode info.family.csdLayout card.csd.encode
  size : info.csd.totalSectors = .ok info.totalSectors
  block : info.csd.blockLenLog2 = .ok info.blockLog

/-- **Identification** that succeeds on a board that fails no read. -/
theorem hearing_identify (patience : Nat) (h : Hearing s) :
    Ensures (identify patience).run s fun result _ => ∀ info, result = .ok info →
      Recognized s.sim info := by
  refine ensures_course_ok
    (ensures_attempt ((hearing_resetCard patience h).mono fun _ _ hreset _ hok => hreset hok)) ?_
  rintro _ s₁ ⟨hattentive₁, hmedia₁⟩
  refine ensures_course_ok (hattentive₁.identifyFamily patience) ?_
  rintro family s₂ ⟨htaken, htried₂⟩
  refine ensures_course_bind (ensures_step ((htried₂.report _).mono ?_))
  rintro _ s₃ ⟨htried₃, -⟩
  refine ensures_course_ok (htried₃.attentive.readRegister patience (by decide) rfl
    s₃.sim.length_cid (s₃.sim.asked_sendCid 0 _)) ?_
  rintro _ s₄ ⟨rfl, htried₄⟩
  refine ensures_course_ok (htried₄.attentive.readRegister patience (by decide) rfl
    s₄.sim.length_csd (s₄.sim.asked_sendCsd 0 _)) ?_
  rintro _ s₅ ⟨rfl, -⟩
  have hmedia₃ : s₃.sim.media = s.sim.media := htried₃.media.trans hmedia₁
  have hmedia₄ : s₄.sim.media = s.sim.media := htried₄.media.trans hmedia₃
  refine ensures_course_ok (ensures_attempt (ensures_requireSize _)) ?_
  rintro total s₆ ⟨hsize, rfl⟩
  refine ensures_course_ok (ensures_attempt (ensures_requireSize _)) ?_
  rintro blockLog s₇ ⟨hlog, rfl⟩
  apply ensures_course_pure
  rintro info ⟨⟩
  refine ⟨htaken.of_media hmedia₁, ?_, ?_, hsize, hlog⟩
  · have hcid : s₃.sim.cid = s.sim.cid := SimCard.cid_of_media hmedia₃
    show Cid.decode s₃.sim.cid.encode = Cid.decode s.sim.cid.encode
    rw [hcid]
  · have hcsd : s₄.sim.csd = s.sim.csd := SimCard.csd_of_media hmedia₄
    show Csd.decode family.csdLayout s₄.sim.csd.encode =
      Csd.decode family.csdLayout s.sim.csd.encode
    rw [hcsd]

end ChannelM

/-! ## Cards -/

namespace Card

open SessionM ChannelM CardEngine

variable {H C : Type} [CardBoard H] [TickSource C]

/-- Bringing up a card on a board that fails no read. -/
theorem hearing_bringUp (patience : Nat) {s : Session (Card (Faulty H)) C}
    (h : Hearing (s.at Card.channel)) :
    Ensures (bringUp patience) s fun result s' => result = .ok () →
      Recognized (s.at Card.channel).sim s'.device.info := by
  refine ensures_bind (ensures_forget ?_)
  have hspeed : Ensures (ChannelM.setSpeed .slow) (s.at Card.channel) fun _ s₁ =>
      Hearing s₁ ∧ s₁.sim = (s.at Card.channel).sim := ensures_onDevice ⟨h, rfl⟩
  refine Ensures.bind (ensures_onChannel hspeed) fun _ s₁ ⟨h₁, hsim₁⟩ => ?_
  refine (ensures_onChannel (hearing_identify patience h₁)).bind ?_
  rintro (error | info) s₂ hidentified
  · exact ensures_bind (ensures_any fun _ _ => ensures_bind (ensures_any fun _ _ =>
      ensures_pure nofun))
  · have hrecognized := hidentified info rfl
    rw [hsim₁] at hrecognized
    refine ensures_bind (ensures_any fun _ s₃ => ?_)
    apply ensures_bind
    apply ensures_onDevice
    refine ensures_bind (ensures_within (ensures_onDevice ?_))
    exact ensures_bind (ensures_report (ensures_pure fun _ => hrecognized))

/-- **A card that was brought up** on a board that may fail any write and any flush, but no read, was
    found out as it is; but if a write may fail, a card of version 2 may be known as one of version 1. -/
theorem recognized_of_bringUp {patience : Nat} {s s' : Session (Card (Faulty SimCard)) C}
    (hecho : s.device.channel.host.inner.knobs.echo = ifCondPattern)
    (hreads : ∀ n, s.device.channel.host.schedule.read n = false)
    (hup : bringUp patience s = some (.ok (), s')) :
    let card := s.device.channel.host.inner
    let info := s'.device.info
    (info.family = card.kind.family ∨
        card.isVersion2 = true ∧ info.family = .sd1 ∧
          ∃ n, s.device.channel.host.schedule.write n = true) ∧
      info.cid = Cid.decode card.cid.encode ∧
      info.csd = Csd.decode info.family.csdLayout card.csd.encode ∧
      info.csd.totalSectors = .ok info.totalSectors ∧
      info.csd.blockLenLog2 = .ok info.blockLog := by
  intro card info
  have hhearing : Hearing (s.at Card.channel) := ⟨trivial, fun n => ⟨hreads n, rfl⟩⟩
  have hrecognized := hearing_bringUp patience hhearing _ _ hup rfl
  refine ⟨?_, hrecognized.cid, hrecognized.csd, hrecognized.size, hrecognized.block⟩
  by_cases hloses : ∃ n, s.device.channel.host.schedule.write n = true
  · rcases hrecognized.family with hfamily | ⟨hversion, hfamily⟩
    · exact .inl hfamily
    · exact .inr ⟨hversion, hfamily, hloses⟩
  · -- a board that loses nothing is clean
    have hclean : (s.at Card.channel).Clean := by
      refine ⟨trivial, fun n => ⟨hreads n, ?_⟩⟩
      exact Bool.eq_false_iff.mpr fun hwrite => hloses ⟨n, hwrite⟩
    obtain ⟨hbrought, -⟩ := clean_bringUp patience hclean hecho _ _ hup rfl
    exact .inl hbrought.identified.family

/-- A block-addressed card that misses a byte of the command that asks for its interface condition is
    known as a small byte-addressed one, with the identification that it has. -/
theorem recognized_of_bringUp_unasked :
    let card : SimCard := .new .sdhc
    let schedule : FaultSchedule := { write := fun n => n == 19, flush := fun _ => true }
    let host : Faulty SimCard := { inner := card, schedule }
    ∃ s', bringUp 200 ⟨{ channel := { host, line := some .one } },
        { clock := { value := 0 : Counter } }⟩ = some (.ok (), s') ∧
      s'.device.info.family = .sd1 ∧ s'.device.info.totalSectors = 128 ∧
      s'.device.info.cid = Cid.decode card.cid.encode := by
  intro card schedule host
  let device : Card (Faulty SimCard) := { channel := { host, line := some .one } }
  let env : Env Counter := { clock := { value := 0 } }
  have hback : (bringUp 200 ⟨device, env⟩).any (fun up => up.1.isOk &&
      up.2.device.info.family == .sd1 && up.2.device.info.totalSectors == 128) = true := by
    decide +kernel
  obtain ⟨⟨result, s'⟩, hup, hall⟩ := (Option.any_eq_true _ _).mp hback
  simp only [Bool.and_eq_true, beq_iff_eq] at hall
  obtain ⟨⟨hok, hfamily⟩, hsize⟩ := hall
  cases result with
  | error error => cases hok
  | ok _ =>
    obtain ⟨-, hcid, -⟩ := recognized_of_bringUp rfl (fun _ => rfl) hup
    exact ⟨s', hup, hfamily, hsize, hcid⟩

/-- **A board that fails one read** of a byte of the conditions: a byte-addressed card is known as a
    block-addressed one, larger than any of its kind. -/
theorem misrecognized :
    let card : SimCard := .new .sd2
    let schedule : FaultSchedule := { read := fun n => n == 48 }
    let host : Faulty SimCard := { inner := card, schedule }
    ∃ s', bringUp 200 ⟨{ channel := { host, line := some .one } },
        { clock := { value := 0 : Counter } }⟩ = some (.ok (), s') ∧
      s'.device.info.family ≠ card.kind.family ∧ s'.device.info.totalSectors = 4278194176 := by
  intro card schedule host
  let device : Card (Faulty SimCard) := { channel := { host, line := some .one } }
  let env : Env Counter := { clock := { value := 0 } }
  have hback : (bringUp 200 ⟨device, env⟩).any (fun up => up.1.isOk &&
      up.2.device.info.family != card.kind.family &&
      up.2.device.info.totalSectors == 4278194176) = true := by
    decide +kernel
  obtain ⟨⟨result, s'⟩, hup, hall⟩ := (Option.any_eq_true _ _).mp hback
  simp only [Bool.and_eq_true, beq_iff_eq, bne_iff_ne] at hall
  obtain ⟨⟨hok, hfamily⟩, hsize⟩ := hall
  cases result with
  | error error => cases hok
  | ok _ => exact ⟨s', hup, hfamily, hsize⟩

end Card

end SpiDisk
