import SpiDisk.Proofs.Sim.BringUp
import SpiDisk.Proofs.Sim.Fragments
import SpiDisk.Proofs.Sim.Transfers

/-!
# `SpiDisk.Proofs.Sim.Losses` — writing on a board that fails

A board may lose what it was to write, and may keep from its caller what it read. At full speed a write
goes in one call, so that the card hears all of it or nothing. A caller that is told of an idle line in
the place of an answer takes it for no answer at all; and the answer that tells of a block accepted is
one that only a card gives which heard the token, the block and its checksum. So whatever the board
loses, a write that succeeds has stored its sectors.

## Contents
- **Bytes.** `SimCard.Owes`, what is left of an answer; `faulty_write`.
- **Waiting.** `faulty_waitReady`, `faulty_selectCard`.
- **Commands.** `Poised`, what every command leaves behind, and `faulty_sendPlain`.
- **Blocks.** `faulty_transmitBlock`, `faulty_transmitBlocks`.
- **Runs.** `faulty_writeRun` and `faulty_writeSectors`.
- **Cards.** `Card.stored_of_write`.
-/

namespace SpiDisk

/-! ## Bytes -/

namespace SimCard

theorem receiveMany_append (card : SimCard) (first rest : List UInt8) :
    card.receiveMany (first ++ rest) = (card.receiveMany first).receiveMany rest := by
  induction first generalizing card with
  | nil => rw [receiveMany_nil, List.nil_append]
  | cons byte first ih => rw [List.cons_append, receiveMany_cons, ih, ← receiveMany_cons]

/-- What is left of an answer behind its gap: some of the gap and the answer, or nothing at all. -/
def Owes (card : SimCard) (r1 : UInt8) (other : SimCard) : Prop :=
  other = card.saying [] ∨ ∃ gap, other = card.saying (List.replicate gap idleByte ++ [r1])

/-- Every byte that is read leaves less of the answer. -/
theorem Owes.next {card other : SimCard} (hselected : card.selected = true)
    (hsilent : (card.saying []).Silent) {r1 : UInt8} (h : Owes card r1 other) :
    Owes card r1 other.next.2 := by
  rcases h with rfl | ⟨gap, rfl⟩
  · rw [hsilent.next]
    exact .inl rfl
  cases gap with
  | zero =>
    rw [List.replicate_zero, List.nil_append, next_saying hselected]
    exact .inl rfl
  | succ gap =>
    rw [List.replicate_succ, List.cons_append, next_saying hselected]
    exact .inr ⟨gap, rfl⟩

end SimCard

namespace ChannelM

open SessionM CardEngine

variable {H C : Type} [CardBoard H] [TickSource C] {s s' : Session (Channel H) C}

/-- **Writing** at full speed: the card hears all of it, or nothing. -/
theorem faulty_write (bytes : List UInt8) (hfast : s.device.speed = .fast) :
    Ensures (write bytes) s fun _ s' =>
      (∃ heard, (heard = bytes ∨ heard = []) ∧ s'.sim = (s.sim.receiveMany heard).core) ∧
        Moved 0 s s' := by
  refine ensures_bind (ensures_device ?_)
  rw [hfast]
  refine (sim_shiftOut bytes s).mono ?_
  rintro _ s₁ ⟨hheard | ⟨-, hlost⟩, hmoved⟩
  · exact ⟨⟨bytes, .inl rfl, hheard⟩, hmoved⟩
  · refine ⟨⟨[], .inr rfl, ?_⟩, hmoved⟩
    rw [SimCard.receiveMany_nil]
    exact hlost

/-! ## Waiting -/

/-- The card is as it was, but busy for some bytes less. -/
def Waited (s s' : Session (Channel H) C) : Prop :=
  (∃ done, s'.sim = s.sim.waiting (s.sim.busy.less done)) ∧ ∃ readings, Moved readings s s'

/-- Waiting for a card that is only busy leaves it less so; it may be found ready too early. -/
theorem faulty_waitReady (patience : Nat) (hselected : s.sim.selected = true)
    (hout : s.sim.out = []) (hstream : s.sim.stream = none) :
    Ensures (waitReady patience) s fun _ s' => Waited s s' := by
  have hafter := SimCard.after_of_waiting hselected hout hstream
  have hstart : s.sim = s.sim.waiting (s.sim.busy.less 0) := hafter 0
  refine ensures_bind (ensures_startDeadline ?_)
  refine Ensures.bind (ensures_pollUntil (P := Waited s) (Q := fun _ => Waited s) ?_ patience
    ⟨⟨0, hstart⟩, _, (Moved.refl s).tick⟩) fun _ _ h => ensures_pure h
  rintro s₁ ⟨⟨done, hsim₁⟩, readings, hmoved₁⟩
  refine (sim_readByte s₁).bind ?_
  rintro byte s₂ ⟨-, hsim₂, hmoved₂⟩
  have hsim : s₂.sim = s.sim.waiting (s.sim.busy.less (done + 1)) := by
    rw [hsim₂, hsim₁, ← hafter, ← SimCard.after_succ, hafter]
  have hmoved : Moved readings s s₂ := hmoved₁.trans hmoved₂
  refine ensures_pure ?_
  split
  · exact ⟨⟨_, hsim⟩, _, hmoved⟩
  · dsimp only
    split
    · exact ⟨⟨_, hsim⟩, _, hmoved.tick⟩
    · exact ⟨⟨_, hsim⟩, _, hmoved.tick⟩

/-- Nothing happens to a card at rest that is not busy, but that it listens if it was found ready. -/
theorem faulty_selectCard (patience : Nat) (hline : s.device.line ≠ none)
    (hrested : s.sim.rested = s.sim) (hfree : s.sim.busy = .bytes 0) :
    Ensures (selectCard patience) s fun ready s' =>
      Served s s' ∧ s'.device.owns = ready ∧
        s'.sim = (if ready then s.sim.listening else s.sim) := by
  have hout : s.sim.out = [] := by rw [← hrested]; rfl
  have hstream : s.sim.stream = none := by rw [← hrested]; rfl
  have hlistening : s.sim.listening = { s.sim with selected := true } := by
    rw [SimCard.listening, ← hfree]
  have hsilent : s.sim.listening.Silent := ⟨hout, rfl, hstream⟩
  refine (sim_selectCard (R := fun _ s₁ => Served s s₁ ∧ s₁.sim = s.sim.listening)
    patience hline hrested ?_).mono ?_
  · intro s₁ hwoken
    have hsim₁ : s₁.sim = s.sim.listening := by
      rw [hwoken.sim, hfree]
      rfl
    refine (faulty_waitReady patience (by rw [hsim₁]; rfl) (by rw [hsim₁]; exact hout)
      (by rw [hsim₁]; exact hstream)).mono ?_
    rintro ready s₂ ⟨⟨done, hsim₂⟩, readings, hmoved₂⟩
    rw [hsim₁, hsilent.waiting] at hsim₂
    exact ⟨hwoken.served.trans hmoved₂.served, hsim₂⟩
  · rintro (_ | _) s₂ ⟨howns₂, hready, hrest⟩
    · obtain ⟨s₁, ⟨hserved₁, hsim₁⟩, hsim₂, -, hserved₂⟩ := hrest rfl
      refine ⟨hserved₁.trans hserved₂, howns₂, ?_⟩
      rw [hsim₂, hsim₁, hlistening]
      exact hrested
    · obtain ⟨hserved₁, hsim₁⟩ := hready rfl
      exact ⟨hserved₁, howns₂, hsim₁⟩

/-! ## Commands -/

/-- **Waiting for an answer.** `P` is what reading a byte keeps of the card. An answer is a byte that
    such a card gave out. -/
theorem faulty_awaitResponse {P : SimCard → Prop} (hnext : ∀ card, P card → P card.next.2)
    (polls : Nat) (h : P s.sim) :
    Ensures (awaitResponse polls) s fun r1 s' =>
      Moved 0 s s' ∧ P s'.sim ∧
        (R1.isAnswer r1 = true → ∃ card, P card ∧ r1 = card.next.1 ∧ s'.sim = card.next.2) := by
  induction polls generalizing s with
  | zero =>
    exact ensures_pure ⟨Moved.refl s, h, fun hno => absurd hno SimCard.not_isAnswer_idleByte⟩
  | succ polls ih =>
    refine (sim_readByte s).bind ?_
    rintro byte s₁ ⟨⟨fault, hbyte⟩, hsim₁, hmoved₁⟩
    have hkept : P s₁.sim := hsim₁ ▸ hnext _ h
    by_cases hanswer : R1.isAnswer byte = true
    · have hidle : byte ≠ idleByte := by
        rintro rfl
        exact SimCard.not_isAnswer_idleByte hanswer
      rw [if_pos hanswer]
      exact ensures_pure ⟨hmoved₁, hkept, fun _ => ⟨s.sim, h, (eq_of_seen hbyte hidle).2, hsim₁⟩⟩
    · rw [if_neg hanswer]
      split
      · exact ensures_pure ⟨hmoved₁, hkept, fun hno => absurd hno hanswer⟩
      · exact (ih hkept).mono fun _ _ ⟨hmoved, hrest⟩ => ⟨hmoved₁.trans hmoved, hrest⟩

/-- A card that has nothing to say but one answer gives that answer, or none is heard. -/
theorem faulty_answer (polls : Nat) {card : SimCard} (hselected : card.selected = true)
    (hbusy : card.busy = .bytes 0) (hstream : card.stream = none) {r1 : UInt8}
    (hsim : s.sim = card.answer r1 []) :
    Ensures (awaitResponse polls) s fun status s' =>
      Moved 0 s s' ∧ (∃ out, s'.sim = card.saying out) ∧
        (R1.isAnswer status = true → status = r1 ∧ s'.sim = card.saying []) := by
  have hsilent : (card.saying []).Silent := ⟨rfl, hbusy, hstream⟩
  refine (faulty_awaitResponse (P := card.Owes r1) (fun _ => SimCard.Owes.next hselected hsilent)
    polls (.inr ⟨_, hsim⟩)).mono ?_
  rintro status s₁ ⟨hmoved, howes, hanswer⟩
  refine ⟨hmoved, ?_, fun hstatus => ?_⟩
  · rcases howes with hdone | ⟨gap, hleft⟩
    · exact ⟨[], hdone⟩
    · exact ⟨_, hleft⟩
  · have hidle : status ≠ idleByte := by
      rintro rfl
      exact SimCard.not_isAnswer_idleByte hstatus
    -- neither the gap nor the line behind the answer can be taken for one
    obtain ⟨other, rfl | ⟨gap, rfl⟩, hsaid, hsim₁⟩ := hanswer hstatus
    · rw [hsilent.next] at hsaid
      exact absurd hsaid hidle
    cases gap with
    | zero =>
      rw [List.replicate_zero, List.nil_append, SimCard.next_saying hselected] at hsaid hsim₁
      exact ⟨hsaid, hsim₁⟩
    | succ gap =>
      rw [List.replicate_succ, List.cons_append, SimCard.next_saying hselected] at hsaid
      exact absurd hsaid hidle

/-- A card that has nothing to say is not heard to answer. -/
theorem faulty_awaitSilence (polls : Nat) (hsilent : s.sim.Silent) :
    Ensures (awaitResponse polls) s fun status s' =>
      Moved 0 s s' ∧ s'.sim = s.sim ∧ R1.isAnswer status = false := by
  have hnext : ∀ other, other = s.sim → other.next.2 = s.sim := by
    rintro other rfl
    rw [hsilent.next]
  refine (faulty_awaitResponse (P := fun other => other = s.sim) hnext polls rfl).mono ?_
  rintro status s₁ ⟨hmoved, hsim, hanswer⟩
  refine ⟨hmoved, hsim, Bool.eq_false_iff.mpr fun hstatus => ?_⟩
  obtain ⟨other, rfl, hsaid, -⟩ := hanswer hstatus
  rw [hsaid, hsilent.next] at hstatus
  exact SimCard.not_isAnswer_idleByte hstatus

/-- What a command may change about a card that was brought up and listens. -/
structure Heeded (card other : SimCard) : Prop where
  selected : other.selected = true
  busy : other.busy = .bytes 0
  stream : other.stream = none
  idle : other.idle = card.idle
  media : other.media = card.media

/-- A frame that the card hears is answered behind the gap, and behind one that is lost the card stays
    silent. -/
theorem faulty_exchangeFrame {index : UInt8} (hplain : index ≠ Command.stopTransmission.index)
    (argument : UInt32) (hfast : s.device.speed = .fast) (hsilent : s.sim.Silent)
    {card : SimCard} {r1 : UInt8}
    (hheard : (s.sim.receiveMany (Command.frame index argument)).core = card.answer r1 [])
    (hheeded : Heeded s.sim card) :
    Ensures (exchangeFrame index argument) s fun status s' =>
      Moved 0 s s' ∧ (s'.sim.media = s.sim.media ∧ s'.sim.busy = .bytes 0 ∧
          s'.sim.idle = s.sim.idle) ∧
        (R1.isAnswer status = true → status = r1 ∧ s'.sim = card.saying []) := by
  refine (sim_report _ s).bind fun _ s₁ ⟨hsim₁, hmoved₁⟩ => ?_
  refine (faulty_write _ (hmoved₁.speed.trans hfast)).bind ?_
  rintro _ s₂ ⟨⟨heard, rfl | rfl, hsim₂⟩, hmoved₂⟩
  · rw [hsim₁, hheard] at hsim₂
    rw [if_neg hplain]
    refine (faulty_answer _ hheeded.selected hheeded.busy hheeded.stream hsim₂).mono ?_
    rintro status s₃ ⟨hmoved₃, ⟨out, hsim₃⟩, hanswer⟩
    refine ⟨hmoved₁.trans (hmoved₂.trans hmoved₃), ?_, hanswer⟩
    rw [hsim₃]
    exact ⟨hheeded.media, hheeded.busy, hheeded.idle⟩
  · -- a card that has not heard the frame has nothing to say
    have hsim₂ : s₂.sim = s.sim := by
      rw [hsim₂, SimCard.receiveMany_nil, hsim₁]
      rfl
    rw [if_neg hplain]
    rw [← hsim₂] at hsilent
    refine (faulty_awaitSilence responsePolls hsilent).mono ?_
    rintro status s₃ ⟨hmoved₃, hsim₃, hsilence⟩
    refine ⟨hmoved₁.trans (hmoved₂.trans hmoved₃), ?_, fun hstatus => ?_⟩
    · rw [hsim₃, ← hsim₂]
      exact ⟨rfl, hsilent.busy, rfl⟩
    · rw [hsilence] at hstatus
      cases hstatus

/-- A channel at full speed, bound to a line, whose card is there, was brought up and is not busy. -/
structure Poised (s : Session (Channel H) C) : Prop where
  bound : s.device.line ≠ none
  fast : s.device.speed = .fast
  settled : Settled s
  present : s.sim.knobs.present = true
  free : s.sim.busy = .bytes 0
  ready : s.sim.idle = false

/-- A channel stays poised as long as its card does. -/
theorem Poised.served (h : Poised s) (hserved : Served s s') (hsettled : Settled s')
    (hmedia : s'.sim.media = s.sim.media) (hfree : s'.sim.busy = .bytes 0)
    (hready : s'.sim.idle = false) : Poised s' where
  bound := by rw [hserved.line]; exact h.bound
  fast := hserved.speed.trans h.fast
  settled := hsettled
  present := by rw [SimCard.knobs_of_media hmedia]; exact h.present
  free := hfree
  ready := hready

theorem Poised.moved (h : Poised s) (hsim : s'.sim = s.sim) {readings : Nat}
    (hmoved : Moved readings s s') : Poised s' := by
  refine h.served hmoved.served (fun haway => ?_) ?_ ?_ ?_
  · rw [hsim]
    exact h.settled (hmoved.owns.symm.trans haway)
  · rw [hsim]
  · rw [hsim]
    exact h.free
  · rw [hsim]
    exact h.ready

/-- **A command** that leaves nothing but its answer: if an answer is heard it is the card's, and the
    card has done what it was told; otherwise nothing is known, but that the card is poised. -/
theorem faulty_sendPlain (patience : Nat) (h : Poised s) {index : UInt8}
    (hindex : Command.Plain index) (argument : UInt32) {card : SimCard} {r1 : UInt8}
    (hexecute : (s.sim.asked.execute index argument s.sim.appPending).core = card.answer r1 [])
    (hheeded : Heeded s.sim card) :
    Ensures (sendPlain patience index argument) s fun status s' =>
      Poised s' ∧ Served s s' ∧ s'.sim.media = s.sim.media ∧
        (R1.isAnswer status = true →
          s'.device.owns = true ∧ status = r1 ∧ s'.sim = card.saying []) := by
  obtain ⟨hplain, hstart, hmask⟩ := hindex
  unfold sendPlain
  rw [if_neg hplain]
  refine (sim_shutdown h.settled).bind fun _ s₁ ⟨hsim₁, _, _, hserved₁⟩ => ?_
  have hrested : s₁.sim.rested = s₁.sim := by rw [hsim₁]; rfl
  have hfree : s₁.sim.busy = .bytes 0 := by rw [hsim₁]; exact h.free
  refine (faulty_selectCard patience (by rw [hserved₁.line]; exact h.bound) hrested hfree).bind ?_
  rintro (_ | _) s₂ ⟨hserved₂, howns₂, hsim₂⟩
  · -- the card was not found ready
    have hserved : Served s s₂ := hserved₁.trans hserved₂
    rw [if_neg (by decide), hsim₁] at hsim₂
    have hmedia : s₂.sim.media = s.sim.media := by rw [hsim₂]; rfl
    refine ensures_pure ⟨h.served hserved ?_ hmedia ?_ ?_, hserved, hmedia,
      fun hno => absurd hno SimCard.not_isAnswer_idleByte⟩
    · intro _
      rw [hsim₂]
      rfl
    · rw [hsim₂]
      exact h.free
    · rw [hsim₂]
      exact h.ready
  · rw [if_pos rfl, hsim₁] at hsim₂
    have hsilent : s₂.sim.Silent := by rw [hsim₂]; exact ⟨rfl, rfl, rfl⟩
    have hheard : (s₂.sim.receiveMany (Command.frame index argument)).core = card.answer r1 [] := by
      rw [hsim₂, SimCard.receiveMany_frame rfl rfl hstart,
        SimCard.core_accept_asked h.present hmask, hexecute]
    have hheeded₂ : Heeded s₂.sim card := by
      rw [hsim₂]
      exact ⟨hheeded.selected, hheeded.busy, hheeded.stream, hheeded.idle, hheeded.media⟩
    refine (faulty_exchangeFrame hplain argument
      (by rw [hserved₂.speed, hserved₁.speed, h.fast]) hsilent hheard hheeded₂).mono ?_
    rintro status s₃ ⟨hmoved₃, ⟨hmedia₃, hbusy₃, hidle₃⟩, hanswer⟩
    rw [hsim₂] at hmedia₃ hidle₃
    have hserved : Served s s₃ := hserved₁.trans (hserved₂.trans hmoved₃.served)
    have howns₃ : s₃.device.owns = true := by rw [hmoved₃.owns, howns₂]
    exact ⟨h.served hserved (settled_of_owns howns₃) hmedia₃ hbusy₃ (hidle₃.trans h.ready), hserved,
      hmedia₃, fun hstatus => ⟨howns₃, hanswer hstatus⟩⟩

/-! ## Blocks -/

/-- A card that was brought up and waits for a block for a sector. -/
structure Awaiting (card : SimCard) (lba : UInt32) (multi : Bool) : Prop where
  selected : card.selected = true
  out : card.out = []
  stream : card.stream = none
  ready : card.idle = false
  phase : card.phase = .token lba multi

/-- Waiting for a card to take a token is waiting. -/
theorem faulty_readyFor (patience : Nat) (token : UInt8) (hselected : s.sim.selected = true)
    (hout : s.sim.out = []) (hstream : s.sim.stream = none) :
    Ensures (readyFor patience token) s fun _ s' => Waited s s' := by
  refine (faulty_waitReady patience hselected hout hstream).bind ?_
  rintro (_ | _) s₁ ⟨hsim₁, readings, hmoved₁⟩
  · refine (sim_report _ s₁).bind fun _ s₂ ⟨hsim₂, hmoved₂⟩ => ?_
    rw [← hsim₂] at hsim₁
    exact ensures_pure ⟨hsim₁, _, hmoved₁.trans hmoved₂⟩
  · exact ensures_pure ⟨hsim₁, _, hmoved₁⟩

/-- What the card heard of a block that was sent to it: all of it, or less than any block. -/
theorem heard_block {token heard : List UInt8} {block data check : List UInt8}
    (htoken : heard = token ∨ heard = []) (hone : token.length = 1)
    (hdata : data = block ∨ data = []) (hblock : block.length = sectorSize)
    (hcheck : check = [idleByte, idleByte] ∨ check = []) :
    heard = token ∧ data = block ∧ check = [idleByte, idleByte] ∨
      (heard ++ data ++ check).length ≤ SimCard.blockLength := by
  have hsize : sectorSize = 512 := rfl
  have hlength : SimCard.blockLength = 514 := rfl
  rcases htoken with rfl | rfl <;> rcases hdata with rfl | rfl <;> rcases hcheck with rfl | rfl
  · exact .inl ⟨rfl, rfl, rfl⟩
  all_goals
    right
    simp only [List.length_append, List.length_cons, List.length_nil, hone, hblock]
    omega

/-- A card that tells that it accepts a block has heard it whole: behind anything less it has nothing to
    say. -/
theorem Awaiting.offered {card : SimCard} {lba : UInt32} {multi : Bool} (h : Awaiting card lba multi)
    {block : List UInt8} (hlength : block.length = sectorSize) {token data check : List UInt8}
    (htoken : token = [if multi then Token.startMultiWrite else Token.startBlock] ∨ token = [])
    (hdata : data = block ∨ data = []) (hcheck : check = [idleByte, idleByte] ∨ check = [])
    (haccepts : Token.accepts (card.receiveMany (token ++ data ++ check)).core.next.1 = true) :
    (card.receiveMany (token ++ data ++ check)).core.next = card.core.offer lba multi block := by
  rcases heard_block htoken rfl hdata hlength hcheck with ⟨rfl, rfl, rfl⟩ | hfew
  · rw [SimCard.receiveMany_append, SimCard.receiveMany_append,
      SimCard.receiveMany_block h.selected h.phase hlength,
      SimCard.next_store h.selected h.out hlength]
  · rw [SimCard.next_core, SimCard.not_accepts_fragment h.out h.ready h.phase _ hfew] at haccepts
    cases haccepts

/-- **A block** that is told to have been accepted was heard whole, and the card made of it what it
    makes of a block. -/
theorem faulty_transmitBlock (patience : Nat) (hfast : s.device.speed = .fast) {lba : UInt32}
    {multi : Bool} (hawaiting : Awaiting s.sim lba multi) {block : List UInt8}
    (hlength : block.length = sectorSize) :
    Ensures (transmitBlock patience (if multi then Token.startMultiWrite else Token.startBlock)
      block) s fun result s' =>
        (∃ readings, Moved readings s s') ∧ (result = .ok () → ∃ busy,
          s'.sim = ((s.sim.waiting busy).offer lba multi block).2 ∧
            Token.accepts ((s.sim.waiting busy).offer lba multi block).1 = true) := by
  refine (faulty_readyFor patience _ hawaiting.selected hawaiting.out hawaiting.stream).bind ?_
  rintro (_ | _) s₁ ⟨⟨done, hsim₁⟩, readings, hmoved₁⟩
  · exact ensures_pure ⟨⟨_, hmoved₁⟩, nofun⟩
  rw [if_pos rfl]
  -- the card when the token is sent; it may still be busy
  let card : SimCard := s.sim.waiting (s.sim.busy.less done)
  have hcard : Awaiting card lba multi :=
    ⟨hawaiting.selected, hawaiting.out, hawaiting.stream, hawaiting.ready, hawaiting.phase⟩
  have hfast₁ : s₁.device.speed = .fast := hmoved₁.speed.trans hfast
  refine (faulty_write _ hfast₁).bind ?_
  rintro _ s₂ ⟨⟨token, htoken, hsim₂⟩, hmoved₂⟩
  have hfast₂ : s₂.device.speed = .fast := hmoved₂.speed.trans hfast₁
  refine (faulty_write _ hfast₂).bind ?_
  rintro _ s₃ ⟨⟨data, hdata, hsim₃⟩, hmoved₃⟩
  have hfast₃ : s₃.device.speed = .fast := hmoved₃.speed.trans hfast₂
  refine (faulty_write _ hfast₃).bind ?_
  rintro _ s₄ ⟨⟨check, hcheck, hsim₄⟩, hmoved₄⟩
  refine (sim_readByte s₄).bind ?_
  rintro response s₅ ⟨⟨fault, hresponse⟩, hsim₅, hmoved₅⟩
  have hmoved : ∃ readings, Moved readings s s₅ :=
    ⟨_, hmoved₁.trans (hmoved₂.trans (hmoved₃.trans (hmoved₄.trans hmoved₅)))⟩
  have hsim₄ : s₄.sim = (card.receiveMany (token ++ data ++ check)).core := by
    rw [hsim₄, hsim₃, SimCard.core_receiveMany, hsim₂, hsim₁, SimCard.receiveMany_append,
      SimCard.receiveMany_append]
    exact SimCard.receiveMany_congr (SimCard.core_receiveMany (card.receiveMany token) data) check
  by_cases haccepts : Token.accepts response = true
  · rw [if_pos haccepts]
    have hidle : response ≠ idleByte := by
      rintro rfl
      exact absurd haccepts (by decide)
    rw [(eq_of_seen hresponse hidle).2] at haccepts
    rw [hsim₄] at hsim₅ haccepts
    rw [hcard.offered hlength htoken hdata hcheck haccepts] at hsim₅ haccepts
    exact ensures_pure ⟨hmoved, fun _ => ⟨s.sim.busy.less done, hsim₅, haccepts⟩⟩
  · rw [if_neg haccepts]
    obtain ⟨readings, hmoved⟩ := hmoved
    refine (sim_report _ s₅).bind fun _ s₆ ⟨_, hmoved₆⟩ => ?_
    exact ensures_pure ⟨⟨_, hmoved.trans hmoved₆⟩, nofun⟩

/-- A block that was accepted is stored, and the card waits for the next one. -/
theorem faulty_sendBlock (patience : Nat) (hfast : s.device.speed = .fast) {lba : UInt32}
    {multi : Bool} (hawaiting : Awaiting s.sim lba multi) {block : List UInt8}
    (hlength : block.length = sectorSize) :
    Ensures (transmitBlock patience (if multi then Token.startMultiWrite else Token.startBlock)
      block) s fun result s' =>
        (∃ readings, Moved readings s s') ∧ (result = .ok () →
          s.sim.media.put lba [block] = (.ok (), s'.sim.media) ∧
            (multi = true → Awaiting s'.sim (lba + 1) true)) := by
  refine (faulty_transmitBlock patience hfast hawaiting hlength).mono ?_
  rintro result s₁ ⟨hmoved, hstored⟩
  refine ⟨hmoved, fun hok => ?_⟩
  obtain ⟨busy, hsim, haccepts⟩ := hstored hok
  have hmedia : (s.sim.waiting busy).media = s.sim.media := rfl
  obtain ⟨hselected, hout, hstream, hidle, -, hphase⟩ :=
    (s.sim.waiting busy).offer_kept lba multi block
  rcases (s.sim.waiting busy).offer_cases lba multi block with ⟨hrefused, -⟩ | ⟨-, hput, -⟩
  · rw [haccepts] at hrefused
    cases hrefused
  · rw [hmedia, ← hsim] at hput
    rw [← hsim] at hselected hout hstream hidle hphase
    refine ⟨hput, fun hmulti => ⟨hselected.trans hawaiting.selected, hout,
      hstream.trans hawaiting.stream, hidle.trans hawaiting.ready, ?_⟩⟩
    rw [hphase, if_pos hmulti, hmulti]

/-- **A run of blocks** all of which were accepted is stored. -/
theorem faulty_transmitBlocks (patience : Nat) (blocks : List (List UInt8))
    (hfast : s.device.speed = .fast) {lba : UInt32} (hawaiting : Awaiting s.sim lba true)
    (hlength : ∀ block ∈ blocks, block.length = sectorSize) :
    Ensures (transmitBlocks patience blocks) s fun result s' =>
      (∃ readings, Moved readings s s') ∧ (result = .ok () →
        s.sim.media.put lba blocks = (.ok (), s'.sim.media) ∧
          ∃ next, Awaiting s'.sim next true) := by
  induction blocks generalizing s lba with
  | nil => exact ensures_pure ⟨⟨0, Moved.refl s⟩, fun _ => ⟨rfl, lba, hawaiting⟩⟩
  | cons block rest ih =>
    refine (faulty_sendBlock patience hfast hawaiting (hlength block (List.mem_cons_self ..))).bind ?_
    rintro (error | _) s₁ ⟨⟨m, hmoved₁⟩, hstored⟩
    · exact ensures_pure ⟨⟨m, hmoved₁⟩, nofun⟩
    obtain ⟨hput, hawaiting₁⟩ := hstored rfl
    refine (ih (hmoved₁.speed.trans hfast) (hawaiting₁ rfl) fun other hmem =>
      hlength other (List.mem_cons_of_mem block hmem)).mono ?_
    rintro result s₂ ⟨⟨n, hmoved₂⟩, hrest⟩
    refine ⟨⟨m + n, hmoved₁.trans hmoved₂⟩, fun hok => ?_⟩
    rw [SimCard.put_cons, hput]
    exact hrest hok

/-- The token that ends a multiple write changes nothing that is stored, heard or not. -/
theorem faulty_transmitStop (patience : Nat) (hfast : s.device.speed = .fast) {lba : UInt32}
    (hawaiting : Awaiting s.sim lba true) :
    Ensures (transmitStop patience) s fun _ s' =>
      (∃ readings, Moved readings s s') ∧ s'.sim.media = s.sim.media := by
  refine (faulty_readyFor patience _ hawaiting.selected hawaiting.out hawaiting.stream).bind ?_
  rintro (_ | _) s₁ ⟨⟨done, hsim₁⟩, readings, hmoved₁⟩
  · refine ensures_pure ⟨⟨_, hmoved₁⟩, ?_⟩
    rw [hsim₁]
    rfl
  rw [if_pos rfl]
  refine (faulty_write _ (hmoved₁.speed.trans hfast)).bind ?_
  rintro _ s₂ ⟨⟨heard, hheard, hsim₂⟩, hmoved₂⟩
  refine ensures_pure ⟨⟨_, hmoved₁.trans hmoved₂⟩, ?_⟩
  have hselected : (s.sim.waiting (s.sim.busy.less done)).selected = true := hawaiting.selected
  have hphase : (s.sim.waiting (s.sim.busy.less done)).phase = .token lba true := hawaiting.phase
  rcases hheard with rfl | rfl
  · rw [hsim₂, hsim₁, SimCard.receiveMany_of_selected hselected, List.foldl_cons, List.foldl_nil,
      SimCard.receive_stopToken hphase]
    rfl
  · rw [hsim₂, hsim₁, SimCard.receiveMany_nil]
    rfl

/-! ## Runs -/

/-- A write of one sector that succeeds has stored it. -/
theorem faulty_writeOne (patience : Nat) (h : Poised s) (address : UInt32) {block : List UInt8}
    (hlength : block.length = sectorSize) :
    Ensures (writeOne patience address block) s fun result s' => result = .ok () →
      s.sim.media.put (s.sim.sectorOf address) [block] = (.ok (), s'.sim.media) ∧ Settled s' := by
  -- the card that waits for the block
  let waiting : SimCard := s.sim.asked.taking (.token (s.sim.sectorOf address) false)
  have hexecute : (s.sim.asked.execute Command.writeSingle.index address s.sim.appPending).core =
      waiting.answer R1.ready [] :=
    congrArg SimCard.core (SimCard.asked_writeSingle s.sim address _)
  refine (faulty_sendPlain patience h (by decide) address hexecute
    ⟨rfl, rfl, rfl, rfl, rfl⟩).bind ?_
  rintro r1 s₁ ⟨hpoised₁, -, -, hanswer⟩
  by_cases hready : r1 = R1.ready
  · obtain ⟨howns₁, -, hsim₁⟩ := hanswer (by rw [hready]; decide)
    have hawaiting : Awaiting s₁.sim (s.sim.sectorOf address) false := by
      rw [hsim₁]
      exact ⟨rfl, rfl, rfl, h.ready, rfl⟩
    rw [if_neg (not_not_intro hready)]
    refine (faulty_sendBlock patience hpoised₁.fast hawaiting hlength).mono ?_
    rintro result s₂ ⟨⟨readings, hmoved₂⟩, hstored⟩ hok
    rw [hsim₁] at hstored
    exact ⟨(hstored hok).1, settled_of_owns (hmoved₂.owns.trans howns₁)⟩
  · rw [if_pos hready]
    exact ensures_bind (ensures_any fun _ _ => ensures_pure nofun)

omit [TickSource C] in
/-- A card answers the notice of an application command, whether or not it knows any. -/
theorem heeded_appNotice (s : Session (Channel H) C) : ∃ card r1,
    (s.sim.asked.execute Command.appNotice.index 0 s.sim.appPending).core = card.answer r1 [] ∧
      Heeded s.sim card := by
  by_cases hkind : s.sim.kind = .mmc
  · refine ⟨s.sim.asked, s.sim.illegal, ?_, rfl, rfl, rfl, rfl, rfl⟩
    rw [SimCard.asked_appNotice_mmc hkind]
    rfl
  · refine ⟨{ s.sim.asked with appPending := true }, s.sim.status, ?_, rfl, rfl, rfl, rfl, rfl⟩
    rw [SimCard.asked_appNotice hkind]
    rfl

omit [TickSource C] in
/-- A card answers a count, whether or not it took the notice in front of it. -/
theorem heeded_setEraseCount (s : Session (Channel H) C) (count : UInt32) : ∃ r1,
    (s.sim.asked.execute Command.setEraseCount.index count s.sim.appPending).core =
      s.sim.asked.answer r1 [] := by
  cases s.sim.appPending with
  | true =>
    refine ⟨R1.ready, ?_⟩
    rw [SimCard.asked_setEraseCount]
    rfl
  | false =>
    refine ⟨s.sim.illegal, ?_⟩
    have hexecute : s.sim.asked.execute Command.setEraseCount.index count false =
        s.sim.asked.respond [s.sim.illegal] := rfl
    rw [hexecute, SimCard.respond_of_silent rfl]
    rfl

/-- Telling a card the count leaves it poised, whatever it made of that. -/
theorem faulty_sendCount (patience : Nat) (h : Poised s) (count : UInt32) :
    Ensures (send patience Command.setEraseCount count) s fun _ s' =>
      Poised s' ∧ s'.sim.media = s.sim.media := by
  obtain ⟨card, r1, hexecute, hheeded⟩ := heeded_appNotice s
  unfold send
  rw [if_pos (by decide)]
  refine (faulty_sendPlain patience h (by decide) 0 hexecute hheeded).bind ?_
  rintro status s₁ ⟨hpoised₁, -, hmedia₁, -⟩
  split
  · exact ensures_pure ⟨hpoised₁, hmedia₁⟩
  obtain ⟨r1, hexecute₁⟩ := heeded_setEraseCount s₁ count
  refine (faulty_sendPlain patience hpoised₁ (by decide) count hexecute₁
    ⟨rfl, rfl, rfl, rfl, rfl⟩).mono ?_
  rintro status s₂ ⟨hpoised₂, -, hmedia₂, -⟩
  exact ⟨hpoised₂, hmedia₂.trans hmedia₁⟩

/-- Announcing a write leaves the card poised, whatever became of it. -/
theorem faulty_announceCount (patience : Nat) (h : Poised s) (family : Family) (count : Nat) :
    Ensures (announceCount patience family count) s fun _ s' =>
      Poised s' ∧ s'.sim.media = s.sim.media := by
  unfold announceCount
  split
  · refine (faulty_sendCount patience h count.toUInt32).bind ?_
    rintro r1 s₁ ⟨hpoised₁, hmedia₁⟩
    split
    · refine (sim_report _ s₁).mono ?_
      rintro _ s₂ ⟨hsim₂, hmoved₂⟩
      rw [← hsim₂] at hmedia₁
      exact ⟨hpoised₁.moved hsim₂ hmoved₂, hmedia₁⟩
    · exact ensures_pure ⟨hpoised₁, hmedia₁⟩
  · exact ensures_pure ⟨h, rfl⟩

/-- A write of several sectors that succeeds has stored them. -/
theorem faulty_writeMany (patience : Nat) (h : Poised s) (family : Family) (address : UInt32)
    (blocks : List (List UInt8)) (hlength : ∀ block ∈ blocks, block.length = sectorSize) :
    Ensures (writeMany patience family address blocks) s fun result s' => result = .ok () →
      s.sim.media.put (s.sim.sectorOf address) blocks = (.ok (), s'.sim.media) ∧ Settled s' := by
  refine (faulty_announceCount patience h family blocks.length).bind ?_
  rintro _ s₁ ⟨hpoised₁, hmedia₁⟩
  have hsector : s₁.sim.sectorOf address = s.sim.sectorOf address := by
    unfold SimCard.sectorOf
    rw [SimCard.kind_of_media hmedia₁]
  rw [← hmedia₁, ← hsector]
  -- the card that waits for the first block
  let waiting : SimCard := s₁.sim.asked.taking (.token (s₁.sim.sectorOf address) true)
  have hexecute : (s₁.sim.asked.execute Command.writeMultiple.index address
      s₁.sim.appPending).core = waiting.answer R1.ready [] :=
    congrArg SimCard.core (SimCard.asked_writeMultiple s₁.sim address _)
  refine (faulty_sendPlain patience hpoised₁ (by decide) address hexecute
    ⟨rfl, rfl, rfl, rfl, rfl⟩).bind ?_
  rintro r1 s₂ ⟨hpoised₂, -, -, hanswer⟩
  by_cases hready : r1 = R1.ready
  · obtain ⟨howns₂, -, hsim₂⟩ := hanswer (by rw [hready]; decide)
    have hawaiting : Awaiting s₂.sim (s₁.sim.sectorOf address) true := by
      rw [hsim₂]
      exact ⟨rfl, rfl, rfl, hpoised₁.ready, rfl⟩
    rw [if_neg (not_not_intro hready)]
    refine (faulty_transmitBlocks patience blocks hpoised₂.fast hawaiting hlength).bind ?_
    rintro (error | _) s₃ ⟨⟨m, hmoved₃⟩, hstored⟩
    · exact ensures_bind (ensures_any fun _ _ => ensures_pure nofun)
    obtain ⟨hput, next, hawaiting₃⟩ := hstored rfl
    rw [hsim₂] at hput
    refine (faulty_transmitStop patience (hmoved₃.speed.trans hpoised₂.fast) hawaiting₃).bind ?_
    rintro stop s₄ ⟨⟨n, hmoved₄⟩, hmedia₄⟩
    have howns₄ : s₄.device.owns = true := by rw [hmoved₄.owns, hmoved₃.owns, howns₂]
    refine ensures_pure fun _ => ⟨?_, settled_of_owns howns₄⟩
    rw [hmedia₄]
    exact hput
  · rw [if_pos hready]
    exact ensures_bind (ensures_any fun _ _ => ensures_pure nofun)

/-- **A run** that was written without a failure is stored. -/
theorem faulty_writeRun (patience : Nat) (h : Poised s) (family : Family) (address : UInt32)
    (blocks : List (List UInt8)) (hlength : ∀ block ∈ blocks, block.length = sectorSize) :
    Ensures (writeRun patience family address blocks) s fun result s' => result = .ok () →
      s.sim.media.put (s.sim.sectorOf address) blocks = (.ok (), s'.sim.media) ∧ Settled s' := by
  unfold writeRun
  split
  · rename_i block
    exact faulty_writeOne patience h address (hlength block (List.mem_singleton_self block))
  · exact faulty_writeMany patience h family address blocks hlength

/-- **A write** that succeeds has stored its sectors. -/
theorem faulty_writeSectors (patience : Nat) (h : Poised s) {info : CardInfo}
    (hfamily : info.family = s.sim.kind.family) (hsize : info.Addressable) (lba : UInt32)
    (bytes : List UInt8) :
    Ensures (writeSectors patience info lba bytes) s fun result s' => result = .ok () →
      (bytes.length / sectorSize = 0 ∨
        lba.toNat + bytes.length / sectorSize ≤ info.totalSectors.toNat) ∧
      s.sim.media.put lba (sectors (bytes.length / sectorSize) bytes) = (.ok (), s'.sim.media) := by
  unfold writeSectors
  dsimp only
  rw [isPresent_of_kind hfamily, if_neg (by decide)]
  by_cases hcount : bytes.length / sectorSize = 0
  · rw [if_pos hcount, hcount]
    exact ensures_pure fun _ => ⟨.inl rfl, rfl⟩
  have hpos : 0 < bytes.length / sectorSize := Nat.pos_of_ne_zero hcount
  rw [if_neg hcount]
  unfold storeRun
  rw [info.runAddress_eq hsize lba hpos]
  by_cases hrange : lba.toNat + bytes.length / sectorSize ≤ info.totalSectors.toNat
  · rw [if_pos hrange]
    have hsector : s.sim.sectorOf (info.argument lba) = lba :=
      sectorOf_argument hfamily hsize (by omega)
    have hlength : ∀ block ∈ sectors (bytes.length / sectorSize) bytes,
        block.length = sectorSize := length_of_mem_sectors (Nat.div_mul_le_self _ _)
    refine (faulty_writeRun patience h info.family (info.argument lba) _ hlength).bind ?_
    rintro (error | _) s₁ hstored
    · exact ensures_bind (ensures_any fun _ _ => ensures_pure nofun)
    obtain ⟨hput, hsettled⟩ := hstored rfl
    rw [hsector] at hput
    -- what is stored stays stored when the bus is given back
    have hconclude : Ensures (conclude (CardNote.writeFailed (bytes.length / sectorSize) lba)
        (.ok ())) s₁ fun _ s₂ => s₂.sim.media = s₁.sim.media := by
      refine (sim_shutdown hsettled).bind fun _ s₂ ⟨hsim₂, _⟩ => ensures_pure ?_
      rw [hsim₂]
      rfl
    refine hconclude.bind fun _ s₂ hmedia₂ => ensures_pure fun _ => ⟨.inr hrange, ?_⟩
    rw [hmedia₂]
    exact hput
  · rw [if_neg hrange]
    exact ensures_bind (ensures_pure (ensures_bind (ensures_any fun _ _ => ensures_pure nofun)))

end ChannelM

/-! ## Cards -/

namespace SimCard

/-- A run leaves every sector alone that it does not reach. -/
theorem stored?_put_of_away {card : SimCard} {lba other : UInt32} {blocks : List (List UInt8)}
    (haway : ∀ i < blocks.length, lba + UInt32.ofNat i ≠ other) :
    (card.put lba blocks).2.stored? other = card.stored? other := by
  induction blocks generalizing card lba with
  | nil => rfl
  | cons block rest ih =>
    have hfirst : lba ≠ other := by simpa using haway 0 (by simp)
    rw [put]
    split
    · rfl
    · rw [ih]
      · show ((lba, block) :: card.storage).lookup other = card.storage.lookup other
        rw [List.lookup_cons, beq_false_of_ne (Ne.symm hfirst)]
      · intro i hlt
        have hnext := haway (i + 1) (by simpa using hlt)
        rwa [Nat.add_comm i 1, UInt32.ofNat_add, ← UInt32.add_assoc] at hnext

/-- A run that was taken without a rejection is stored, block by block. -/
theorem stored?_put {card other : SimCard} {lba : UInt32} {blocks : List (List UInt8)}
    (hput : card.put lba blocks = (.ok (), other)) (hlength : blocks.length ≤ 2 ^ 32) {i : Nat}
    {block : List UInt8} (hblock : blocks[i]? = some block) :
    other.stored? (lba + UInt32.ofNat i) = some block := by
  induction blocks generalizing card lba i with
  | nil => simp at hblock
  | cons first rest ih =>
    rw [put] at hput
    split at hput
    · cases hput
    cases i with
    | zero =>
      have hfirst : first = block := by simpa using hblock
      have haway : ∀ j < rest.length, lba + 1 + UInt32.ofNat j ≠ lba := by
        intro j hlt hsame
        rw [List.length_cons] at hlength
        have hwrap := congrArg UInt32.toNat hsame
        rw [UInt32.add_assoc, UInt32.toNat_add, UInt32.toNat_add, UInt32.toNat_ofNat'] at hwrap
        have hbound : lba.toNat < 2 ^ 32 := lba.toNat_lt
        have hone : (1 : UInt32).toNat = 1 := rfl
        omega
      have hkept := @stored?_put_of_away (card.counted.holding lba first) _ _ _ haway
      rw [hput] at hkept
      have hzero : lba + UInt32.ofNat 0 = lba := UInt32.add_zero lba
      rw [hzero, hkept, ← hfirst]
      show ((lba, first) :: card.storage).lookup lba = some first
      rw [List.lookup_cons, beq_self_eq_true]
    | succ i =>
      rw [List.length_cons] at hlength
      rw [Nat.add_comm i 1, UInt32.ofNat_add, ← UInt32.add_assoc]
      exact ih hput (by omega) (by simpa using hblock)

end SimCard

/-- The surroundings of a card with another schedule of failures, and the card with other settings for
    what it does behind commands and blocks. -/
def Session.refitted {C : Type} (s : Session (Card (Faulty SimCard)) C) (schedule : FaultSchedule)
    (busyAfterBlock : Busy) (responseGap : Nat) (failWriteBlock : Option Nat) :
    Session (Card (Faulty SimCard)) C :=
  { s with
    device.channel.host.schedule := schedule
    device.channel.host.inner.knobs.busyAfterBlock := busyAfterBlock
    device.channel.host.inner.knobs.responseGap := responseGap
    device.channel.host.inner.knobs.failWriteBlock := failWriteBlock }

namespace Card

open SessionM ChannelM CardEngine

variable {C : Type}

/-- A card that was brought up is poised, and stays so whatever is done to its board. -/
theorem BroughtUp.poised {card : SimCard} {s : Session (Card (Faulty SimCard)) C}
    (h : BroughtUp card s) (schedule : FaultSchedule) (busyAfterBlock : Busy) (responseGap : Nat)
    (failWriteBlock : Option Nat) :
    Poised ((s.refitted schedule busyAfterBlock responseGap failWriteBlock).at Card.channel) := by
  refine ⟨h.answering.bound, h.fast, fun haway => ?_, h.answering.present, h.free, h.ready⟩
  have hrested : (s.at Card.channel).sim.rested = (s.at Card.channel).sim :=
    h.answering.settled haway
  exact congrArg (fun rested : SimCard => { rested with
    knobs := { rested.knobs with busyAfterBlock, responseGap, failWriteBlock } }) hrested

/-- **A write that succeeds has stored its sectors,** on a board that may fail any read, any write and
    any flush since the card was brought up, and with any settings of the card for what it does behind
    commands and blocks. -/
theorem stored_of_write [TickSource C] {upPatience patience : Nat}
    {s s₁ s₂ : Session (Card (Faulty SimCard)) C} (hclean : (s.at Card.channel).Clean)
    (hecho : s.device.channel.host.inner.knobs.echo = ifCondPattern)
    (hup : bringUp upPatience s = some (.ok (), s₁)) {schedule : FaultSchedule}
    {busyAfterBlock : Busy} {responseGap : Nat} {failWriteBlock : Option Nat} {lba : UInt32}
    {bytes : List UInt8}
    (hwrite : write patience lba bytes
      (s₁.refitted schedule busyAfterBlock responseGap failWriteBlock) = some (.ok (), s₂)) :
    ∀ i < bytes.length / sectorSize, lba.toNat + i < 2 ^ 32 ∧
      s₂.device.channel.host.inner.stored? (lba + UInt32.ofNat i) =
        some ((bytes.drop (i * sectorSize)).take sectorSize) := by
  intro i hlt
  let refitted := s₁.refitted schedule busyAfterBlock responseGap failWriteBlock
  obtain ⟨hbrought, -⟩ := clean_bringUp upPatience hclean hecho _ _ hup rfl
  have hfamily : s₁.device.info.family = (refitted.at Card.channel).sim.kind.family := by
    rw [hbrought.identified.family, ← SimCard.kind_of_media hbrought.media]
    rfl
  have hsectors : Ensures (write patience lba bytes) refitted _ :=
    ensures_bind (ensures_device (ensures_onChannel (faulty_writeSectors patience
      (hbrought.poised schedule busyAfterBlock responseGap failWriteBlock) hfamily
      hbrought.identified.addressable lba bytes)))
  obtain ⟨hrange, hput⟩ := hsectors _ _ hwrite rfl
  have hbound : s₁.device.info.totalSectors.toNat < 2 ^ 32 :=
    s₁.device.info.totalSectors.toNat_lt
  have hcount : lba.toNat + bytes.length / sectorSize < 2 ^ 32 := by
    rcases hrange with hnone | hrange
    · omega
    · omega
  refine ⟨by omega, ?_⟩
  refine SimCard.stored?_put hput ?_ (getElem?_sectors hlt bytes)
  rw [length_sectors]
  omega

/-- A write succeeds of which the announcement was lost, and two reads in front of it. -/
theorem stored_of_write_unannounced :
    let card : SimCard := { SimCard.new .sd2 with knobs := { responseGap := 2, initPolls := 2 } }
    let schedule : FaultSchedule :=
      { read := fun n => n == 103 || n == 105, write := fun n => n == 89, flush := fun _ => true }
    ∃ s₁ s₂, bringUp 200 ⟨{ channel := { host := { inner := card }, line := some .one } },
        { clock := { value := 0 : Counter } }⟩ = some (.ok (), s₁) ∧
      write 200 5 (List.replicate 1024 7) (s₁.refitted schedule (.bytes 3) 4 none) =
        some (.ok (), s₂) ∧
      s₂.device.channel.host.inner.stored? 6 = some (List.replicate 512 7) := by
  intro card schedule
  let device : Card (Faulty SimCard) := { channel := { host := { inner := card }, line := some .one } }
  let env : Env Counter := { clock := { value := 0 } }
  have hback : ((bringUp 200 ⟨device, env⟩).bind fun up => (write 200 5 (List.replicate 1024 7)
      (up.2.refitted schedule (.bytes 3) 4 none)).map fun done => (up, done)).any
        (fun both => both.1.1.isOk && both.2.1.isOk) = true := by decide +kernel
  obtain ⟨⟨⟨up, s₁⟩, result, s₂⟩, hboth, hok⟩ := (Option.any_eq_true _ _).mp hback
  obtain ⟨⟨_, _⟩, hup, hdone⟩ := Option.bind_eq_some_iff.mp hboth
  obtain ⟨⟨_, _⟩, hwrite, heq⟩ := Option.map_eq_some_iff.mp hdone
  cases heq
  cases up with
  | error error => cases hok
  | ok _ =>
    cases result with
    | error error => cases hok
    | ok _ =>
      have hclean : (Session.at ⟨device, env⟩ Card.channel).Clean := ⟨trivial, fun _ => ⟨rfl, rfl⟩⟩
      have hecho : device.channel.host.inner.knobs.echo = ifCondPattern := rfl
      have hsecond : 1 < (List.replicate 1024 (7 : UInt8)).length / sectorSize := by
        rw [List.length_replicate]
        decide
      obtain ⟨-, hstored⟩ := stored_of_write hclean hecho hup hwrite 1 hsecond
      refine ⟨s₁, s₂, hup, hwrite, ?_⟩
      rw [List.drop_replicate, List.take_replicate] at hstored
      exact hstored

end Card

end SpiDisk
