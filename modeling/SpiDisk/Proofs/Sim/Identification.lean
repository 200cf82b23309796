import SpiDisk.Proofs.Card.Address
import SpiDisk.Proofs.Sim.Answers
import SpiDisk.Card.Identification

/-!
# `SpiDisk.Proofs.Sim.Identification` — identifying a simulated card on a clean board

An identification that succeeds had a card in the slot that answers soon enough: otherwise the reset
would have gone without its answer. From the reset on the card is never busy, so every command is
answered on any clock, and the course of the identification is decided by the kind of the card.

## Contents
- **Answers.** What the commands of the identification make of a card.
- **Reset.** `clean_resetCard`, behind which the card is `Prompt`.
- **Family.** `Prompt.identifyFamily`, the family of the card's kind.
- **Registers.** `Prompt.readRegister`, and `clean_identify`, which puts it all together.
-/

namespace SpiDisk

namespace SimCard

/-! ## Answers -/

theorem isAnswer_status (card : SimCard) : R1.isAnswer card.status = true := by
  unfold status
  cases card.idle <;> decide

theorem isAnswer_illegal (card : SimCard) : R1.isAnswer card.illegal = true := by
  unfold illegal status
  cases card.idle <;> decide

theorem status_le (card : SimCard) : ¬ card.status > R1.idle := by
  unfold status
  cases card.idle <;> decide

/-- A refused command is told apart from the status of any card that goes on. -/
theorem illegal_gt (card : SimCard) : card.illegal > R1.idle := by
  unfold illegal status
  cases card.idle <;> decide

theorem asked_goIdle (card : SimCard) (argument : UInt32) (app : Bool) :
    card.asked.execute Command.goIdle.index argument app =
      answer { card.asked with idle := true, pollsLeft := card.knobs.initPolls } R1.idle [] :=
  respond_of_silent rfl _ _

/-- The status of a card in idle state behind the reset proves that there is a card, and that its gap
    is short enough. -/
theorem poll_goIdle {card next : SimCard} (hpoll : (R1.idle, next) =
      (card.rested.listening.accept (Command.frame Command.goIdle.index 0)).core.poll
        responsePolls) :
    card.knobs.present = true ∧ card.knobs.responseGap < responsePolls ∧
      next.media = card.media ∧ next.idle = true ∧ next.pollsLeft = card.knobs.initPolls ∧
      next.busy = .bytes 0 := by
  have hanswer : R1.idle ≠ idleByte := by decide
  -- without a card the line stays idle, and behind too long a gap nobody waits for the answer
  cases hpresent : card.knobs.present with
  | false =>
    have habsent : card.rested.listening.knobs.present = false := hpresent
    rw [accept_absent habsent] at hpoll
    let silent : SimCard := { card.rested.listening.core with appPending := false }
    have hsilent : silent.poll responsePolls = (idleByte, silent) :=
      poll_of_silent rfl rfl rfl responsePolls
    rw [hsilent] at hpoll
    exact absurd (Prod.mk.inj hpoll).1 hanswer
  | true =>
    rw [core_accept_asked hpresent (by decide), asked_goIdle] at hpoll
    let reset : SimCard := { card.core.asked with idle := true, pollsLeft := card.knobs.initPolls }
    have hpoll : (R1.idle, next) = (reset.answer R1.idle []).poll responsePolls := hpoll
    rcases Nat.lt_or_ge card.knobs.responseGap responsePolls with hgap | hlong
    · rw [poll_answer (show reset.selected = true from rfl) hgap (by decide)] at hpoll
      have hnext : next = reset.saying [] := (Prod.mk.inj hpoll).2
      rw [hnext]
      exact ⟨rfl, hgap, rfl, rfl, rfl, rfl⟩
    · have hsilent : ((reset.answer R1.idle []).poll responsePolls).1 = idleByte :=
        poll_of_long_gap hlong rfl rfl
      rw [← hpoll] at hsilent
      exact absurd hsilent hanswer

/-- A version 2 card echoes the interface condition, as its knob says. -/
theorem asked_sendIfCond_new {card : SimCard} (hkind : card.isVersion2 = true) (argument : UInt32)
    (app : Bool) :
    card.asked.execute Command.sendIfCond.index argument app =
      card.asked.answer card.status (Command.argumentBytes card.knobs.echo) := by
  have hexecute : card.asked.execute Command.sendIfCond.index argument app =
      if card.isVersion2 then
        card.asked.respond (card.status :: Command.argumentBytes card.knobs.echo)
      else card.asked.respond [card.illegal] := rfl
  rw [hexecute, if_pos hkind]
  exact respond_of_silent rfl _ _

theorem asked_sendIfCond_old {card : SimCard} (hkind : card.isVersion2 = false)
    (argument : UInt32) (app : Bool) :
    card.asked.execute Command.sendIfCond.index argument app =
      card.asked.answer card.illegal [] := by
  have hexecute : card.asked.execute Command.sendIfCond.index argument app =
      if card.isVersion2 then
        card.asked.respond (card.status :: Command.argumentBytes card.knobs.echo)
      else card.asked.respond [card.illegal] := rfl
  rw [hexecute, hkind, if_neg (by decide)]
  exact respond_of_silent rfl _ _

theorem asked_appNotice_mmc {card : SimCard} (hkind : card.kind = .mmc) (argument : UInt32)
    (app : Bool) :
    card.asked.execute Command.appNotice.index argument app =
      card.asked.answer card.illegal [] := by
  have hexecute : card.asked.execute Command.appNotice.index argument app =
      if card.kind = .mmc then card.asked.respond [card.illegal]
      else respond { card.asked with appPending := true } [card.status] := rfl
  rw [hexecute, if_pos hkind]
  exact respond_of_silent rfl _ _

/-- What an attempt to bring the card up comes to: the card has left its idle state, or has fewer
    attempts left to be answered as idle. -/
def Attempted (card next : SimCard) (r1 : UInt8) : Prop :=
  (card.pollsLeft = 0 ∧ next.pollsLeft = 0) ∧ r1 = R1.ready ∧ next.idle = false ∨
    card.pollsLeft = next.pollsLeft + 1 ∧ r1 = R1.idle

/-- An attempt to bring the card up is answered as ready by a card that has left its idle state. -/
theorem asked_pollInit (card : SimCard) :
    ∃ (next : SimCard) (r1 : UInt8), card.asked.pollInit = next.answer r1 [] ∧
      next.log = card.log ∧ next.appPending = false ∧ Attempted card next r1 := by
  unfold pollInit
  rw [show card.asked.pollsLeft = card.pollsLeft from rfl]
  cases hpolls : card.pollsLeft with
  | zero =>
    exact ⟨{ card.asked with idle := false, pollsLeft := 0 }, R1.ready, respond_of_silent rfl _ _,
      rfl, rfl, .inl ⟨⟨hpolls, rfl⟩, rfl, rfl⟩⟩
  | succ polls =>
    exact ⟨{ card.asked with pollsLeft := polls }, R1.idle, respond_of_silent rfl _ _, rfl, rfl,
      .inr ⟨hpolls, rfl⟩⟩

theorem asked_sendOpCond {card : SimCard} (hkind : card.kind = .mmc) (argument : UInt32) :
    card.asked.execute Command.sendOpCond.index argument false = card.asked.pollInit := by
  have hexecute : card.asked.execute Command.sendOpCond.index argument false =
      if !false && decide (card.kind = .mmc) then card.asked.pollInit
      else card.asked.respond [card.illegal] := rfl
  rw [hexecute, hkind]
  rfl

theorem asked_sendOpCond_other {card : SimCard} (hkind : card.kind ≠ .mmc) (argument : UInt32)
    (app : Bool) :
    card.asked.execute Command.sendOpCond.index argument app =
      card.asked.answer card.illegal [] := by
  have hexecute : card.asked.execute Command.sendOpCond.index argument app =
      if !app && decide (card.kind = .mmc) then card.asked.pollInit
      else card.asked.respond [card.illegal] := rfl
  rw [hexecute, decide_eq_false hkind, Bool.and_false, if_neg (by decide)]
  exact respond_of_silent rfl _ _

theorem asked_readOcr (card : SimCard) (argument : UInt32) (app : Bool) :
    card.asked.execute Command.readOcr.index argument app =
      if card.knobs.failReadOcr then card.asked.answer card.illegal []
      else card.asked.answer card.status (Command.argumentBytes card.conditions) := by
  have hexecute : card.asked.execute Command.readOcr.index argument app =
      if card.knobs.failReadOcr then card.asked.respond [card.illegal]
      else card.asked.respond (card.status :: Command.argumentBytes card.conditions) := rfl
  rw [hexecute]
  split
  · exact respond_of_silent rfl _ _
  · exact respond_of_silent rfl _ _

theorem asked_setBlockLen (card : SimCard) (app : Bool) :
    card.asked.execute Command.setBlockLen.index sectorSize.toUInt32 app =
      card.asked.answer R1.ready [] :=
  respond_of_silent rfl _ _

/-- The block in which a register is sent, with a checksum that nobody reads. -/
def registerBlock (register : List UInt8) : List UInt8 :=
  Token.startBlock :: (register ++ ([0x00, 0x00] ++ []))

/-- A register follows the status like the block of a single read. -/
theorem asked_register {card : SimCard} (register : List UInt8) :
    card.asked.respondRegister register =
      card.asked.answer R1.ready (idleByte :: registerBlock register) :=
  emit_respond rfl _ _

theorem length_cid (card : SimCard) : card.cid.encode.length = registerSize :=
  Image.length_toBytes _

theorem length_csd (card : SimCard) : card.csd.encode.length = registerSize :=
  Image.length_toBytes _

theorem asked_sendCid (card : SimCard) (argument : UInt32) (app : Bool) :
    card.asked.execute Command.sendCid.index argument app =
      card.asked.respondRegister card.cid.encode :=
  rfl

theorem asked_sendCsd (card : SimCard) (argument : UInt32) (app : Bool) :
    card.asked.execute Command.sendCsd.index argument app =
      card.asked.respondRegister card.csd.encode :=
  rfl

/-- A card of version 2 knows application commands. -/
theorem kind_ne_mmc {card : SimCard} (hversion : card.isVersion2 = true) : card.kind ≠ .mmc := by
  intro hkind
  unfold isVersion2 at hversion
  rw [hkind] at hversion
  exact absurd hversion (by decide)

/-- The only older card that knows application commands is one of version 1. -/
theorem kind_of_older {card : SimCard} (hversion : card.isVersion2 = false)
    (hkind : card.kind ≠ .mmc) : card.kind = .sd1 := by
  unfold isVersion2 at hversion
  cases hkinds : card.kind with
  | sd1 => rfl
  | mmc => exact absurd hkinds hkind
  | _ =>
    rw [hkinds] at hversion
    exact absurd hversion (by decide)

/-- The conditions of a card tell how it is addressed. -/
theorem conditions_capacity (card : SimCard) :
    card.conditions &&& capacityStatus ≠ 0 ↔ card.kind = .sdhc := by
  unfold conditions
  cases card.idle <;> cases card.kind <;> decide

/-- The conditions of a card of version 2 tell its family. -/
theorem family_of_conditions {card : SimCard} (hversion : card.isVersion2 = true) :
    (if card.conditions &&& capacityStatus ≠ 0 then Family.sdhc else Family.sd2) =
      card.kind.family := by
  have hcapacity := card.conditions_capacity
  by_cases hhigh : card.kind = .sdhc
  · rw [if_pos (hcapacity.mpr hhigh), hhigh]
    rfl
  · have hlow : card.kind = .sd2 := by
      unfold isVersion2 at hversion
      simpa [hhigh] using hversion
    rw [if_neg (fun hbit => hhigh (hcapacity.mp hbit)), hlow]
    rfl

end SimCard

namespace ChannelM

open SessionM CardEngine

variable {H C : Type} [CardBoard H] [TickSource C] {s s' : Session (Channel H) C}

/-! ## Reset -/

omit [TickSource C] in
/-- A card that answers, is not busy, and is on a bus that the channel owns. -/
structure Prompt (s : Session (Channel H) C) : Prop extends Answering s where
  free : s.sim.busy = .bytes 0
  owns : s.device.owns = true

theorem Prompt.served (h : Prompt s) (hserved : Served s s') (hmedia : s'.sim.media = s.sim.media)
    (hfree : s'.sim.busy = .bytes 0) (howns : s'.device.owns = true) : Prompt s' where
  toAnswering := h.toAnswering.served hserved (SimCard.knobs_of_media hmedia)
    (settled_of_owns howns)
  free := hfree
  owns := howns

/-- What a command of the identification leaves of the card. -/
structure Asked (s s' : Session (Channel H) C) : Prop where
  prompt : Prompt s'
  media : s'.sim.media = s.sim.media
  served : Served s s'

theorem Prompt.refl (h : Prompt s) : Asked s s :=
  ⟨h, rfl, Served.refl s⟩

theorem Asked.trans {s'' : Session (Channel H) C} (h : Asked s s') (h' : Asked s' s'') :
    Asked s s'' :=
  ⟨h'.prompt, h'.media.trans h.media, h.served.trans h'.served⟩

/-- What moving bytes leaves of a card that was asked. -/
theorem Asked.moved {s'' : Session (Channel H) C} {readings : Nat} (h : Asked s s')
    (hmoved : Moved readings s' s'') (hmedia : s''.sim.media = s'.sim.media)
    (hfree : s''.sim.busy = .bytes 0) : Asked s s'' where
  prompt := h.prompt.served hmoved.served hmedia hfree (hmoved.owns.trans h.prompt.owns)
  media := hmedia.trans h.media
  served := h.served.trans hmoved.served

/-- What the clock says is nothing to the card. -/
theorem Asked.ticked (h : Asked s s') :
    Asked s { s' with env.clock := (TickSource.now s'.env.clock).2 } :=
  h.moved (Moved.refl s').tick rfl h.prompt.free

/-- What is noted is nothing to the card. -/
theorem Asked.told (h : Asked s s') (log : Logger) : Asked s { s' with env.log := log } :=
  have hmoved : Moved 0 s' { s' with env.log := log } := ⟨rfl, rfl, rfl, rfl, rfl, id⟩
  h.moved hmoved rfl h.prompt.free

theorem Asked.report {N : Type} [Diagnostic N] (h : Asked s s') (event : N) :
    Ensures (report event) s' fun _ s'' => Asked s s'' ∧ s''.sim = s'.sim :=
  ensures_report ⟨h.told _, rfl⟩

/-- Going on behind a status leaves the card alone. -/
theorem Asked.requireReady (h : Asked s s') (index r1 : UInt8) :
    Ensures (requireReady index r1) s' fun result s'' =>
      (Asked s s'' ∧ s''.sim = s'.sim) ∧ (result = .ok () → r1 = R1.ready) := by
  refine ensures_requireReady (J := fun s'' => Asked s s'' ∧ s''.sim = s'.sim) ?_ index r1 ⟨h, rfl⟩
  rintro s'' log ⟨hasked, hsim⟩
  exact ⟨hasked.told log, hsim⟩

/-- A card that is not busy answers on any clock. -/
theorem Prompt.ask (h : Prompt s) (patience : Nat) {index : UInt8} (hindex : Command.Plain index)
    (argument : UInt32) {card : SimCard} {r1 : UInt8} {rest : List UInt8}
    (hanswer : R1.isAnswer r1 = true)
    (hexecute : s.sim.asked.execute index argument s.sim.appPending = card.answer r1 rest)
    (hcore : card.core = card) :
    Ensures (sendPlain patience index argument) s fun status s' =>
      status = r1 ∧ s'.sim = card.saying rest ∧ Asked s s' := by
  have hready : ∃ limit, s.sim.busy = .bytes limit ∧ Patient limit s.env.clock :=
    ⟨0, h.free, patient_zero _⟩
  have hexecute : (s.sim.asked.execute index argument s.sim.appPending).core =
      card.answer r1 rest := by
    rw [hexecute]
    show card.core.answer r1 rest = _
    rw [hcore]
  obtain ⟨hmedia, -, hfree⟩ := SimCard.answer_kept hexecute
  refine (h.toAnswering.ask patience hindex argument hready hanswer hexecute).mono ?_
  rintro status s' ⟨hserved, howns, hstatus, hsim⟩
  have hmedia' : s'.sim.media = s.sim.media := by
    rw [hsim]
    exact hmedia
  refine ⟨hstatus, hsim, h.served hserved hmedia' ?_ howns, hmedia', hserved⟩
  rw [hsim]
  exact hfree

omit [TickSource C] in
/-- Moving bytes does not select a card, on any board. -/
theorem callSteady_unselected :
    CallSteady anyFrame fun s : Session (Channel H) C => s.sim.selected = false where
  log _ h := h
  callRead {s} count h := by
    have hselected : (CardBoard.card s.device.host).selected = false := h
    obtain ⟨-, hcard⟩ := CardBoard.read_card s.device.host count
    rw [SimCard.transmitMany_of_unselected hselected] at hcard
    exact (congrArg SimCard.selected hcard).trans hselected
  callWrite {s} bytes _ h := by
    have hselected : (CardBoard.card s.device.host).selected = false := h
    rcases CardBoard.write_card s.device.host bytes with ⟨-, hcard⟩ | ⟨-, hcard⟩
    · rw [SimCard.receiveMany_of_unselected hselected] at hcard
      exact (congrArg SimCard.selected hcard).trans hselected
    · exact (congrArg SimCard.selected hcard).trans hselected
  callPause {s} us h :=
    (congrArg SimCard.selected (CardBoard.pause_card s.device.host us)).trans h

theorem timed_unselected :
    Timed anyFrame fun s : Session (Channel H) C => s.sim.selected = false where
  toSteady := callSteady_unselected.steady
  tick h := h

/-- A line that no card drives is idle, whether or not the reads of it fail. -/
theorem idle_awaitResponse (polls : Nat) (hselected : s.sim.selected = false) :
    Ensures (awaitResponse polls) s fun r1 _ => r1 = idleByte := by
  induction polls generalizing s with
  | zero => exact ensures_pure rfl
  | succ polls ih =>
    refine (sim_readByte s).bind ?_
    rintro byte s₁ ⟨⟨fault, hbyte⟩, hsim₁, -⟩
    rw [SimCard.next_of_unselected hselected] at hbyte hsim₁
    have hidle : byte = idleByte := by
      rw [hbyte]
      cases fault <;> rfl
    rw [hidle, if_neg SimCard.not_isAnswer_idleByte]
    split
    · exact ensures_pure rfl
    · apply ih
      rw [hsim₁]
      exact hselected

/-- A command to a channel without a line goes unheard, on any board. -/
theorem unbound_sendPlain (patience : Nat) {index : UInt8} (hindex : Command.Plain index)
    (argument : UInt32) (hline : s.device.line = none) (hsettled : Settled s) :
    Ensures (sendPlain patience index argument) s fun r1 _ => r1 = idleByte := by
  have hJ : Timed anyFrame fun s : Session (Channel H) C => s.sim.selected = false :=
    timed_unselected
  unfold sendPlain
  rw [if_neg hindex.1]
  refine (sim_shutdown hsettled).bind ?_
  rintro _ s₁ ⟨-, -, -, hserved₁⟩
  -- whether or not the channel takes the line for a ready card, none is selected
  have hselect : Ensures (selectCard patience) s₁ fun ready s₂ =>
      ready = true → s₂.sim.selected = false := by
    refine (sim_obtain s₁).bind ?_
    rintro _ s₂ ⟨-, -, -, hserved₂⟩
    have hline₂ : s₂.device.line = none := (hserved₂.line.trans hserved₁.line).trans hline
    refine (sim_select_unbound hline₂).bind ?_
    rintro _ s₃ ⟨hsim₃, -⟩
    have h₃ : s₃.sim.selected = false := by
      rw [hsim₃]
      rfl
    refine (keeps_readByte hJ.toSteady s₃ h₃).bind fun _ s₄ h₄ => ?_
    refine (upholds_waitReady hJ patience s₄ h₄).back.bind fun ready s₅ h₅ => ?_
    cases ready with
    | true => exact ensures_pure fun _ => h₅
    | false => exact ensures_bind (ensures_any fun _ _ => ensures_bind (ensures_any fun _ _ =>
        ensures_pure nofun))
  refine hselect.bind ?_
  rintro (_ | _) s₂ h₂
  · exact ensures_pure rfl
  · refine (keeps_report (J := fun s => s.sim.selected = false) hJ.log _ s₂ (h₂ rfl)).bind
      fun _ s₃ h₃ => ?_
    refine (keeps_write hJ.toSteady (sayable_any _) s₃ h₃).bind fun _ s₄ h₄ => ?_
    rw [if_neg hindex.1]
    exact idle_awaitResponse _ h₄

/-- Clocking the card leaves it at rest, and the bus taken, on any board. -/
theorem sim_powerUp (patience : Nat) (s : Session (Channel H) C) :
    Ensures (powerUp patience) s fun _ s' =>
      s'.sim = s.sim.rested ∧ s'.device.owns = true ∧ Served s s' := by
  refine (sim_obtain s).bind ?_
  rintro _ s₁ ⟨howns₁, hsim₁, -, hserved₁⟩
  refine (sim_deselect s₁).bind ?_
  rintro _ s₂ ⟨hsim₂, hmoved₂⟩
  rw [hsim₁] at hsim₂
  have hserved₂ : Served s s₂ := hserved₁.trans hmoved₂.served
  refine (sim_write _ s₂).bind ?_
  rintro _ s₃ ⟨⟨heard, -, hsim₃⟩, hmoved₃⟩
  -- a card that is not selected does not hear the idle bytes
  have hunheard : s₂.sim.selected = false := by rw [hsim₂]; rfl
  rw [SimCard.receiveMany_of_unselected hunheard, hsim₂] at hsim₃
  have hserved₃ : Served s s₃ := hserved₂.trans hmoved₃.served
  have howns₃ : s₃.device.owns = true := by rw [hmoved₃.owns, hmoved₂.owns, howns₁]
  refine ensures_waitMillis (P := fun clock => ∃ readings, clock = ticked readings s.env.clock)
    ?_ hserved₃.clock fun clock hclock => ?_
  · rintro clock ⟨readings, rfl⟩
    exact ⟨readings + 1, rfl⟩
  · exact ⟨hsim₃, howns₃, hserved₃.line, hserved₃.speed, hclock, hserved₃.clean⟩

/-- The command to be idle is answered as it should be by a card that is in the slot only, and has reset
    it then. -/
theorem clean_goIdle (patience : Nat) (h : s.Clean) (hsettled : Settled s) :
    Ensures (sendPlain patience Command.goIdle.index 0) s fun r1 s' => r1 = R1.idle →
      Prompt s' ∧ s'.sim.idle = true ∧ s'.sim.pollsLeft = s.sim.knobs.initPolls ∧
        s'.sim.media = s.sim.media ∧ Served s s' := by
  have hplain : Command.Plain Command.goIdle.index := by decide
  by_cases hline : s.device.line = none
  · refine (unbound_sendPlain patience hplain 0 hline hsettled).mono ?_
    rintro r1 _ rfl hno
    cases hno
  refine (clean_sendPlain patience hplain.1 hplain.2.1 0 h hline hsettled).mono ?_
  rintro r1 s₁ ⟨hserved, ⟨howns, hpoll⟩ | ⟨-, hrefused, -⟩⟩ hidle
  · obtain ⟨hpresent, hgap, hmedia, hidle, hpolls, hfree⟩ := SimCard.poll_goIdle (hidle ▸ hpoll)
    have hknobs : s₁.sim.knobs = s.sim.knobs := SimCard.knobs_of_media hmedia
    refine ⟨⟨⟨hserved.clean h, ?_, settled_of_owns howns, ?_, ?_⟩, hfree, howns⟩,
      hidle, hpolls, hmedia, hserved⟩
    · rw [hserved.line]
      exact hline
    · rw [hknobs]
      exact hpresent
    · rw [hknobs]
      exact hgap
  · rw [hrefused] at hidle
    cases hidle

/-- **Reset.** A card that answers the reset is there, on a line, and answers soon enough. -/
theorem clean_resetCard (patience : Nat) (h : s.Clean) :
    Ensures (resetCard patience) s fun result s' => result = .ok () →
      Prompt s' ∧ s'.sim.idle = true ∧ s'.sim.pollsLeft = s.sim.knobs.initPolls ∧
        s'.sim.media = s.sim.media ∧ Served s s' := by
  refine (sim_powerUp patience s).bind ?_
  rintro _ s₁ ⟨hsim₁, howns₁, hserved₁⟩
  refine (sim_report _ s₁).bind ?_
  rintro _ s₂ ⟨hsim₂, hmoved₂⟩
  have hmedia₂ : s₂.sim.media = s.sim.media := by
    rw [hsim₂, hsim₁]
    rfl
  have hserved₂ : Served s s₂ := hserved₁.trans hmoved₂.served
  have hsettled₂ : Settled s₂ := settled_of_owns (hmoved₂.owns.trans howns₁)
  refine (clean_goIdle patience (hserved₂.clean h) hsettled₂).bind fun r1 s₃ h₃ => ?_
  split
  · obtain ⟨hprompt₃, hidle₃, hpolls₃, hmedia₃, hserved₃⟩ := h₃ ‹_›
    rw [SimCard.knobs_of_media hmedia₂] at hpolls₃
    exact ensures_pure fun _ =>
      ⟨hprompt₃, hidle₃, hpolls₃, hmedia₃.trans hmedia₂, hserved₂.trans hserved₃⟩
  · exact ensures_bind (ensures_any fun _ _ => ensures_pure nofun)

/-! ## Family -/

/-- A notice to a card that knows application commands. -/
theorem Prompt.appNotice (h : Prompt s) (patience : Nat) (hkind : s.sim.kind ≠ .mmc) :
    Ensures (sendPlain patience Command.appNotice.index 0) s fun r1 s' =>
      r1 = s.sim.status ∧ s'.sim.appPending = true ∧ s'.sim.pollsLeft = s.sim.pollsLeft ∧
        Asked s s' := by
  refine (h.ask patience (by decide) 0 s.sim.isAnswer_status
    (SimCard.asked_appNotice hkind 0 _) rfl).mono ?_
  rintro r1 s' ⟨hr1, hsim, hasked⟩
  exact ⟨hr1, by rw [hsim]; rfl, by rw [hsim]; rfl, hasked⟩

/-- An attempt to bring up the card, by whichever command its kind has for it. -/
theorem Prompt.pollInit (h : Prompt s) (patience : Nat) {index : UInt8}
    (hindex : Command.Plain index) (argument : UInt32)
    (hexecute : s.sim.asked.execute index argument s.sim.appPending = s.sim.asked.pollInit) :
    Ensures (sendPlain patience index argument) s fun r1 s' =>
      Asked s s' ∧ s'.sim.appPending = false ∧ SimCard.Attempted s.sim s'.sim r1 := by
  obtain ⟨next, r1, hpoll, hlog, hpending, hready⟩ := s.sim.asked_pollInit
  have hanswer : R1.isAnswer r1 = true := by
    rcases hready with ⟨-, rfl, -⟩ | ⟨-, rfl⟩
    · decide
    · decide
  have hcore : next.core = next := by
    have hlog : next.log = {} := hlog
    unfold SimCard.core
    rw [← hlog]
  refine (h.ask patience hindex argument hanswer (hexecute.trans hpoll) hcore).mono ?_
  rintro _ s' ⟨rfl, hsim, hasked⟩
  rw [hsim]
  exact ⟨hasked, hpending, hready⟩

/-- The commands by which cards of a kind are brought up. -/
def BringsUp (kind : SimKind) (command : Command) : Prop :=
  kind ≠ .mmc ∧ command = Command.appSendOpCond ∨ kind = .mmc ∧ command = Command.sendOpCond

/-- An attempt to bring up the card, with a notice where one is needed. -/
theorem Prompt.attempt (h : Prompt s) (patience : Nat) {command : Command}
    (hcommand : BringsUp s.sim.kind command) (hpending : s.sim.appPending = false)
    (argument : UInt32) :
    Ensures (send patience command argument) s fun r1 s' =>
      Asked s s' ∧ s'.sim.appPending = false ∧ SimCard.Attempted s.sim s'.sim r1 := by
  unfold send
  rcases hcommand with ⟨hkind, rfl⟩ | ⟨hkind, rfl⟩
  · rw [if_pos (by decide)]
    refine (h.appNotice patience hkind).bind ?_
    rintro _ s₁ ⟨rfl, hnoticed, hpolls, hasked₁⟩
    rw [if_neg s.sim.status_le]
    -- the notice is still pending, so that the card takes the command for an application command
    have hexecute : s₁.sim.asked.execute Command.appSendOpCond.index argument s₁.sim.appPending =
        s₁.sim.asked.pollInit := by
      rw [hnoticed]
      rfl
    refine (hasked₁.prompt.pollInit patience (by decide) argument hexecute).mono ?_
    rintro r1 s₂ ⟨hasked₂, hpending, hattempted⟩
    refine ⟨hasked₁.trans hasked₂, hpending, ?_⟩
    unfold SimCard.Attempted at hattempted ⊢
    rw [hpolls] at hattempted
    exact hattempted
  · rw [if_neg (by decide)]
    have hexecute : s.sim.asked.execute Command.sendOpCond.index argument s.sim.appPending =
        s.sim.asked.pollInit := by
      rw [hpending]
      exact SimCard.asked_sendOpCond hkind argument
    exact h.pollInit patience (by decide) argument hexecute

/-- A card that left its idle state is ready in the end, or the wait for it was given up. -/
theorem Prompt.pollReady (h : Prompt s) (patience : Nat) {command : Command}
    (hcommand : BringsUp s.sim.kind command) (hpending : s.sim.appPending = false)
    (argument : UInt32) (deadline : Deadline) :
    Ensures (pollReady patience command argument deadline) s fun result s' =>
      result = .ok () → Asked s s' ∧ s'.sim.idle = false := by
  refine (ensures_pollReady (P := fun s' => Asked s s' ∧ s'.sim.appPending = false)
    (Q := fun s' => Asked s s' ∧ s'.sim.idle = false) (R := fun _ => True) ?_ (fun _ h => h)
    ⟨h.refl, hpending⟩).mono ?_
  · rintro s₁ ⟨hasked₁, hpending₁⟩
    have hkind : s₁.sim.kind = s.sim.kind := SimCard.kind_of_media hasked₁.media
    refine (hasked₁.prompt.attempt patience (hkind ▸ hcommand) hpending₁ argument).mono ?_
    rintro _ s₂ ⟨hasked₂, hpending₂, ⟨-, rfl, hidle⟩ | ⟨-, rfl⟩⟩
    · rw [if_pos rfl]
      exact ⟨hasked₁.trans hasked₂, hidle⟩
    · rw [if_neg (by decide)]
      -- the card is asked again unless the deadline has passed
      split
      · trivial
      · exact ⟨(hasked₁.trans hasked₂).ticked, hpending₂⟩
  · rintro (_ | _) s₁ h₁
    · exact nofun
    · exact fun _ => h₁

/-- A word that is pending is read as it is. -/
theorem clean_readWord (h : s.Clean) {card : SimCard} (hselected : card.selected = true)
    {word : UInt32} (hsim : s.sim = card.saying (Command.argumentBytes word)) :
    Ensures readWord s fun result s' =>
      result = word ∧ s'.sim = card.saying [] ∧ Moved 0 s s' := by
  have hword : s.sim.transmitMany 4 = (Command.argumentBytes word, card.saying []) := by
    have hpending : card.saying (Command.argumentBytes word) =
        card.saying (Command.argumentBytes word ++ []) := by
      rw [List.append_nil]
    rw [hsim, hpending]
    exact SimCard.transmitMany_saying hselected (Command.argumentBytes word) []
  refine (clean_read 4 h).bind ?_
  rintro bytes s₁ ⟨hbytes, hsim₁, hmoved₁⟩
  rw [hword] at hbytes
  rw [SimCard.after, hword] at hsim₁
  refine ensures_pure ⟨?_, hsim₁, hmoved₁⟩
  rw [hbytes]
  exact SimCard.argumentOf_argumentBytes word

/-- A word that is pending behind a status is read as it is. -/
theorem Asked.readWord (h : Asked s s') {card : SimCard} (hselected : card.selected = true)
    {word : UInt32} (hsim : s'.sim = card.saying (Command.argumentBytes word)) :
    Ensures readWord s' fun result s'' =>
      result = word ∧ Asked s s'' ∧ s''.sim = card.saying [] := by
  refine (clean_readWord h.prompt.clean hselected hsim).mono ?_
  rintro result s'' ⟨hword, hsim', hmoved⟩
  refine ⟨hword, h.moved hmoved ?_ ?_, hsim'⟩
  · rw [hsim', hsim]
    rfl
  · have hfree := h.prompt.free
    rw [hsim] at hfree
    rw [hsim']
    exact hfree

/-- **The interface condition** is echoed by version 2 cards, and by no others. -/
theorem Prompt.echoesInterface (h : Prompt s) (patience : Nat) (hidle : s.sim.idle = true)
    (hecho : s.sim.knobs.echo = ifCondPattern) :
    Ensures (echoesInterface patience) s fun echoes s' =>
      Asked s s' ∧ s'.sim.appPending = false ∧ s'.sim.pollsLeft = s.sim.pollsLeft ∧
        echoes = s.sim.isVersion2 := by
  have hstatus : s.sim.status = R1.idle := SimCard.status_of_idle hidle
  have hplain : Command.Plain Command.sendIfCond.index := by decide
  cases hversion : s.sim.isVersion2 with
  | true =>
    refine (h.ask patience hplain ifCondPattern s.sim.isAnswer_status
      (SimCard.asked_sendIfCond_new hversion _ _) rfl).bind ?_
    rintro _ s₁ ⟨rfl, hsim₁, hasked₁⟩
    rw [if_pos hstatus]
    have hselected : s.sim.asked.selected = true := rfl
    refine (hasked₁.readWord hselected hsim₁).bind ?_
    rintro _ s₂ ⟨rfl, hasked₂, hsim₂⟩
    refine ensures_pure ⟨hasked₂, ?_, ?_, ?_⟩
    · rw [hsim₂]
      rfl
    · rw [hsim₂]
      rfl
    · rw [hecho]
      rfl
  | false =>
    refine (h.ask patience hplain ifCondPattern s.sim.isAnswer_illegal
      (SimCard.asked_sendIfCond_old hversion _ _) rfl).bind ?_
    rintro _ s₁ ⟨rfl, hsim₁, hasked₁⟩
    have hrefused : s.sim.illegal ≠ R1.idle := (UInt8.ne_of_lt s.sim.illegal_gt).symm
    rw [if_neg hrefused]
    exact ensures_pure ⟨hasked₁, by rw [hsim₁]; rfl, by rw [hsim₁]; rfl, rfl⟩

/-- The status in front of the conditions is that of a card which goes on to tell them. -/
theorem Prompt.askConditions (h : Prompt s) (patience : Nat) :
    Ensures (send patience Command.readOcr 0) s fun r1 s' => Asked s s' ∧ (r1 = R1.ready →
      s'.sim = s.sim.asked.saying (Command.argumentBytes s.sim.conditions)) := by
  have hplain : Command.Plain Command.readOcr.index := by decide
  have hexecute := s.sim.asked_readOcr 0 s.sim.appPending
  unfold send
  rw [if_neg (by decide)]
  cases hfail : s.sim.knobs.failReadOcr with
  | true =>
    rw [hfail, if_pos rfl] at hexecute
    refine (h.ask patience hplain 0 s.sim.isAnswer_illegal hexecute rfl).mono ?_
    rintro _ s₁ ⟨rfl, -, hasked₁⟩
    refine ⟨hasked₁, fun hready => ?_⟩
    have hgt := s.sim.illegal_gt
    rw [hready] at hgt
    exact absurd hgt (by decide)
  | false =>
    rw [hfail, if_neg (by decide)] at hexecute
    refine (h.ask patience hplain 0 s.sim.isAnswer_status hexecute rfl).mono ?_
    rintro _ s₁ ⟨-, hsim₁, hasked₁⟩
    exact ⟨hasked₁, fun _ => hsim₁⟩

/-- A version 2 card that is brought up is found to be of its kind. -/
theorem Prompt.identifyVersion2 (h : Prompt s) (patience : Nat)
    (hversion : s.sim.isVersion2 = true) (hpending : s.sim.appPending = false)
    (deadline : Deadline) :
    Ensures (identifyVersion2 patience deadline).run s fun result s' => ∀ family,
      result = .ok family → family = s.sim.kind.family ∧ Asked s s' ∧ s'.sim.idle = false := by
  refine ensures_course_bind (ensures_step ((h.refl.report _).mono ?_))
  rintro _ s₁ ⟨hasked₁, hsim₁⟩
  have hcommand : BringsUp s₁.sim.kind Command.appSendOpCond := by
    rw [hsim₁]
    exact .inl ⟨SimCard.kind_ne_mmc hversion, rfl⟩
  refine ensures_course_bind (ensures_attempt ((hasked₁.prompt.pollReady patience hcommand
    (by rw [hsim₁]; exact hpending) highCapacitySupport deadline).mono ?_))
  rintro (error | _) s₂ hready
  · exact nofun
  obtain ⟨hasked₂, hidle₂⟩ := hready rfl
  have hasked₂ : Asked s s₂ := hasked₁.trans hasked₂
  refine ensures_course_bind (ensures_step ((hasked₂.prompt.askConditions patience).mono ?_))
  rintro r1 s₃ ⟨hasked₃, hanswer⟩
  refine ensures_course_bind (ensures_attempt ((hasked₃.requireReady _ _).mono ?_))
  rintro (error | _) s₄ ⟨⟨hasked₄, hsim₄⟩, hgo⟩
  · exact nofun
  rw [hanswer (hgo rfl)] at hsim₄
  have hselected : s₂.sim.asked.selected = true := rfl
  refine ensures_course_bind (ensures_step ((hasked₄.readWord hselected hsim₄).mono ?_))
  rintro _ s₅ ⟨rfl, hasked₅, hsim₅⟩
  refine ensures_course_bind (ensures_step ((hasked₅.report _).mono ?_))
  rintro _ s₆ ⟨hasked₆, hsim₆⟩
  refine ensures_course_pure ?_
  rintro family ⟨⟩
  refine ⟨?_, hasked₂.trans hasked₆, ?_⟩
  · rw [← SimCard.kind_of_media hasked₂.media]
    apply SimCard.family_of_conditions
    rw [SimCard.isVersion2_of_media hasked₂.media]
    exact hversion
  · rw [hsim₆, hsim₅]
    exact hidle₂

/-- **The probe** tells the two kinds of older cards apart. -/
theorem Prompt.probe (h : Prompt s) (patience : Nat) (hversion : s.sim.isVersion2 = false)
    (hpending : s.sim.appPending = false) :
    Ensures (send patience Command.appSendOpCond 0) s fun probe s' =>
      Asked s s' ∧ s'.sim.appPending = false ∧ s'.sim.pollsLeft ≤ s.sim.pollsLeft ∧
        (if probe ≤ R1.idle then Family.sd1 else Family.mmc) = s.sim.kind.family ∧
        BringsUp s.sim.kind
          (if probe ≤ R1.idle then Command.appSendOpCond else Command.sendOpCond) := by
  by_cases hkind : s.sim.kind = .mmc
  · unfold send
    rw [if_pos (by decide)]
    refine (h.ask patience (by decide) 0 s.sim.isAnswer_illegal
      (SimCard.asked_appNotice_mmc hkind 0 _) rfl).bind ?_
    rintro _ s₁ ⟨rfl, hsim₁, hasked₁⟩
    -- the notice is refused, and the command behind it is not sent
    have hgt := s.sim.illegal_gt
    rw [if_pos hgt]
    refine ensures_pure ⟨hasked₁, by rw [hsim₁]; rfl, by rw [hsim₁]; exact Nat.le_refl _, ?_⟩
    rw [if_neg (UInt8.not_le.mpr hgt), if_neg (UInt8.not_le.mpr hgt), hkind]
    exact ⟨rfl, .inr ⟨rfl, rfl⟩⟩
  · have hold : s.sim.kind = .sd1 := SimCard.kind_of_older hversion hkind
    refine (h.attempt patience (.inl ⟨hkind, rfl⟩) hpending 0).mono ?_
    rintro probe s₁ ⟨hasked₁, hpending₁, hattempted⟩
    have hle : probe ≤ R1.idle := by
      rcases hattempted with ⟨-, rfl, -⟩ | ⟨-, rfl⟩
      · decide
      · decide
    have hpolls : s₁.sim.pollsLeft ≤ s.sim.pollsLeft := by
      rcases hattempted with ⟨⟨-, hnone⟩, -⟩ | ⟨hless, -⟩
      · omega
      · omega
    rw [if_pos hle, if_pos hle, hold]
    exact ⟨hasked₁, hpending₁, hpolls, rfl, .inl ⟨by decide, rfl⟩⟩

/-- An older card that is brought up is found to be of its kind. -/
theorem Prompt.identifyLegacy (h : Prompt s) (patience : Nat)
    (hversion : s.sim.isVersion2 = false) (hpending : s.sim.appPending = false)
    (deadline : Deadline) :
    Ensures (identifyLegacy patience deadline).run s fun result s' => ∀ family,
      result = .ok family → family = s.sim.kind.family ∧ Asked s s' ∧ s'.sim.idle = false := by
  refine ensures_course_bind (ensures_step ((h.probe patience hversion hpending).mono ?_))
  rintro probe s₁ ⟨hasked₁, hpending₁, -, hfamily, hcommand⟩
  refine ensures_course_bind (ensures_step ((hasked₁.report _).mono ?_))
  rintro _ s₂ ⟨hasked₂, hsim₂⟩
  have hkind₂ : s₂.sim.kind = s.sim.kind := SimCard.kind_of_media hasked₂.media
  refine ensures_course_bind (ensures_attempt ((hasked₂.prompt.pollReady patience
    (hkind₂ ▸ hcommand) (by rw [hsim₂]; exact hpending₁) 0 deadline).mono ?_))
  rintro (error | _) s₃ hready
  · exact nofun
  obtain ⟨hasked₃, hidle₃⟩ := hready rfl
  have hasked₃ : Asked s s₃ := hasked₂.trans hasked₃
  refine ensures_course_bind (ensures_step ((hasked₃.prompt.ask patience (by decide) _
    (show R1.isAnswer R1.ready = true by decide) (s₃.sim.asked_setBlockLen _) rfl).mono ?_))
  rintro _ s₄ ⟨rfl, hsim₄, hasked₄⟩
  refine ensures_course_bind (ensures_attempt ((hasked₄.requireReady _ _).mono ?_))
  rintro (error | _) s₅ ⟨⟨hasked₅, hsim₅⟩, -⟩
  · exact nofun
  refine ensures_course_pure ?_
  rintro family ⟨⟩
  refine ⟨hfamily, hasked₃.trans hasked₅, ?_⟩
  rw [hsim₅, hsim₄]
  exact hidle₃

/-- **The family** that is found is that of the card's kind. -/
theorem Prompt.identifyFamily (h : Prompt s) (patience : Nat) (hidle : s.sim.idle = true)
    (hecho : s.sim.knobs.echo = ifCondPattern) :
    Ensures (identifyFamily patience).run s fun result s' => ∀ family,
      result = .ok family → family = s.sim.kind.family ∧ Asked s s' ∧ s'.sim.idle = false := by
  refine ensures_course_bind (ensures_step (ensures_startDeadline ?_))
  refine ensures_course_bind (ensures_step ((h.refl.ticked.report _).mono ?_))
  rintro _ s₂ ⟨hasked₂, hsim₂⟩
  have hidle₂ : s₂.sim.idle = true := by rw [hsim₂]; exact hidle
  have hecho₂ : s₂.sim.knobs.echo = ifCondPattern := by rw [hsim₂]; exact hecho
  have hversion₂ : s₂.sim.isVersion2 = s.sim.isVersion2 := by rw [hsim₂]; rfl
  refine ensures_course_bind (ensures_step ((hasked₂.prompt.echoesInterface patience hidle₂
    hecho₂).mono ?_))
  rintro echoes s₃ ⟨hasked₃, hpending₃, -, hechoes⟩
  rw [hversion₂] at hechoes
  have hasked₃ : Asked s s₃ := hasked₂.trans hasked₃
  have hkind₃ : s₃.sim.kind = s.sim.kind := SimCard.kind_of_media hasked₃.media
  have hversion₃ : s₃.sim.isVersion2 = s.sim.isVersion2 :=
    SimCard.isVersion2_of_media hasked₃.media
  -- the way that is taken is the one for the kind of the card
  cases echoes with
  | true =>
    dsimp only
    rw [if_pos rfl]
    refine ensures_course_bind (ensures_step ((hasked₃.report _).mono ?_))
    rintro _ s₄ ⟨hasked₄, hsim₄⟩
    have hkind₄ : s₄.sim.kind = s.sim.kind := SimCard.kind_of_media hasked₄.media
    refine (hasked₄.prompt.identifyVersion2 patience ?_ ?_ _).mono ?_
    · rw [hsim₄, hversion₃, hechoes]
    · rw [hsim₄]
      exact hpending₃
    · intro result s₅ h₅ family hfamily
      obtain ⟨hkind, hasked₅, hready⟩ := h₅ family hfamily
      exact ⟨by rw [hkind, hkind₄], hasked₄.trans hasked₅, hready⟩
  | false =>
    dsimp only
    rw [if_neg (by decide)]
    refine (hasked₃.prompt.identifyLegacy patience ?_ hpending₃ _).mono ?_
    · rw [hversion₃, hechoes]
    · intro result s₄ h₄ family hfamily
      obtain ⟨hkind, hasked₄, hready⟩ := h₄ family hfamily
      exact ⟨by rw [hkind, hkind₃], hasked₃.trans hasked₄, hready⟩

/-! ## Registers -/

/-- A card that is asked for a register has it pending behind its status. -/
theorem Prompt.askRegister (h : Prompt s) (patience : Nat) {command : Command}
    (hplain : Command.Plain command.index) (happ : command.app = false) {register : List UInt8}
    (hexecute : s.sim.asked.execute command.index 0 s.sim.appPending =
      s.sim.asked.respondRegister register) :
    Ensures (send patience command 0) s fun r1 s' => r1 = R1.ready ∧
      s'.sim = s.sim.asked.saying (idleByte :: SimCard.registerBlock register) ∧ Asked s s' := by
  have hanswer : R1.isAnswer R1.ready = true := by decide
  unfold send
  rw [happ, if_neg (by decide)]
  exact h.ask patience hplain 0 hanswer (hexecute.trans (SimCard.asked_register register)) rfl

/-- A register that is pending is received as it is, unless the clock runs out behind its first
    byte. -/
theorem clean_receiveRegister (patience : Nat) (h : s.Clean) {card : SimCard}
    {register : List UInt8} (hlength : register.length = registerSize)
    (hsim : s.sim = card.asked.saying (idleByte :: SimCard.registerBlock register)) :
    Ensures (receiveBlock patience registerSize) s fun result s' =>
      (∃ readings, Moved readings s s') ∧
        (result = .ok register ∧ s'.sim = card.asked.saying [] ∨
          result = .error .timeout ∧ ¬ Patient 1 s.env.clock) := by
  have hselected : card.asked.selected = true := rfl
  have hcheck : ([0x00, 0x00] : List UInt8).length = 2 := rfl
  have hnext : s.sim.next = (idleByte, card.asked.saying (SimCard.registerBlock register)) := by
    rw [hsim]
    exact SimCard.next_saying hselected _ _
  rw [← hlength]
  exact clean_receiveBlock patience h hselected hcheck hnext

/-- A register that is read is the one that the card holds. -/
theorem Prompt.readRegister (h : Prompt s) (patience : Nat) {command : Command}
    (hplain : Command.Plain command.index) (happ : command.app = false) {register : List UInt8}
    (hlength : register.length = registerSize)
    (hexecute : s.sim.asked.execute command.index 0 s.sim.appPending =
      s.sim.asked.respondRegister register) :
    Ensures (readRegister patience command).run s fun result s' => ∀ bytes,
      result = .ok bytes → bytes = register ∧ Asked s s' ∧ s'.sim.idle = s.sim.idle := by
  refine ensures_course_bind (ensures_step ((h.askRegister patience hplain happ hexecute).mono ?_))
  rintro r1 s₁ ⟨-, hsim₁, hasked₁⟩
  refine ensures_course_bind (ensures_attempt ((hasked₁.requireReady _ _).mono ?_))
  rintro (error | _) s₂ ⟨⟨hasked₂, hsim₂⟩, -⟩
  · exact nofun
  rw [hsim₁] at hsim₂
  refine ensures_course_bind (ensures_attempt ((clean_receiveRegister patience
    hasked₂.prompt.clean hlength hsim₂).mono ?_))
  rintro (error | bytes) s₃ ⟨⟨m, hmoved₃⟩, hresult⟩
  · exact nofun
  rcases hresult with ⟨hbytes, hsim₃⟩ | ⟨hno, -⟩
  · cases hbytes
    have hasked₃ : Asked s s₃ := by
      refine hasked₂.moved hmoved₃ ?_ ?_
      · rw [hsim₃, hsim₂]
        rfl
      · rw [hsim₃]
        rfl
    refine ensures_course_bind (ensures_step ((hasked₃.report _).mono ?_))
    rintro _ s₄ ⟨hasked₄, hsim₄⟩
    refine ensures_course_pure ?_
    rintro bytes ⟨⟩
    exact ⟨rfl, hasked₄, by rw [hsim₄, hsim₃]; rfl⟩
  · cases hno

/-- What is known of a card that was identified: all of it is as the card has it. -/
structure Identified (card : SimCard) (info : CardInfo) : Prop where
  family : info.family = card.kind.family
  cid : info.cid = Cid.decode card.cid.encode
  csd : info.csd = Csd.decode info.family.csdLayout card.csd.encode
  size : info.csd.totalSectors = .ok info.totalSectors
  block : info.csd.blockLenLog2 = .ok info.blockLog

omit [CardBoard H] [TickSource C] in
theorem Identified.addressable {card : SimCard} {info : CardInfo} (h : Identified card info) :
    info.Addressable :=
  CardInfo.Measured.addressable ⟨⟨_, h.csd⟩, h.size, h.block⟩

/-- **Identification** that succeeds finds out the card as it is, brings it up, and writes nothing. -/
theorem clean_identify (patience : Nat) (h : s.Clean)
    (hecho : s.sim.knobs.echo = ifCondPattern) :
    Ensures (identify patience).run s fun result s' => ∀ info, result = .ok info →
      Identified s.sim info ∧ Prompt s' ∧ s'.sim.idle = false ∧ s'.sim.media = s.sim.media ∧
        Served s s' := by
  refine ensures_course_ok
    (ensures_attempt ((clean_resetCard patience h).mono fun _ _ hreset _ hok => hreset hok)) ?_
  rintro _ s₁ ⟨hprompt₁, hidle₁, -, hmedia₁, hserved₁⟩
  have hecho₁ : s₁.sim.knobs.echo = ifCondPattern := by
    rw [SimCard.knobs_of_media hmedia₁]
    exact hecho
  refine ensures_course_ok (hprompt₁.identifyFamily patience hidle₁ hecho₁) ?_
  rintro family s₂ ⟨hfamily, hasked₂, hidle₂⟩
  refine ensures_course_bind (ensures_step ((hasked₂.report _).mono ?_))
  rintro _ s₃ ⟨hasked₃, hsim₃⟩
  refine ensures_course_ok (hasked₃.prompt.readRegister patience (by decide) rfl
    s₃.sim.length_cid (s₃.sim.asked_sendCid 0 _)) ?_
  rintro _ s₄ ⟨rfl, hasked₄, hidle₄⟩
  refine ensures_course_ok (hasked₄.prompt.readRegister patience (by decide) rfl
    s₄.sim.length_csd (s₄.sim.asked_sendCsd 0 _)) ?_
  rintro _ s₅ ⟨rfl, hasked₅, hidle₅⟩
  -- nothing that was asked changes what the card is made of
  have hmedia₄ : s₄.sim.media = s.sim.media := by
    rw [hasked₄.media, hasked₃.media, hmedia₁]
  have hmedia₅ : s₅.sim.media = s.sim.media := hasked₅.media.trans hmedia₄
  have hserved₅ : Served s s₅ :=
    hserved₁.trans (hasked₃.served.trans (hasked₄.served.trans hasked₅.served))
  have hready₅ : s₅.sim.idle = false := by
    rw [hidle₅, hidle₄, hsim₃]
    exact hidle₂
  refine ensures_course_ok (ensures_attempt (ensures_requireSize _)) ?_
  rintro total s₆ ⟨hsize, rfl⟩
  refine ensures_course_ok (ensures_attempt (ensures_requireSize _)) ?_
  rintro blockLog s₇ ⟨hlog, rfl⟩
  refine ensures_course_pure ?_
  rintro info ⟨⟩
  have hcid : s₃.sim.cid = s.sim.cid := SimCard.cid_of_media (hasked₃.media.trans hmedia₁)
  have hcsd : s₄.sim.csd = s.sim.csd := SimCard.csd_of_media hmedia₄
  refine ⟨⟨?_, ?_, ?_, hsize, hlog⟩, hasked₅.prompt, hready₅, hmedia₅, hserved₅⟩
  · rw [hfamily, SimCard.kind_of_media hmedia₁]
  · show Cid.decode s₃.sim.cid.encode = Cid.decode s.sim.cid.encode
    rw [hcid]
  · show Csd.decode family.csdLayout s₄.sim.csd.encode =
      Csd.decode family.csdLayout s.sim.csd.encode
    rw [hcsd]

end ChannelM

end SpiDisk
