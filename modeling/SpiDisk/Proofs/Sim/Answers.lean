import SpiDisk.Proofs.Sim.Exchange

/-!
# `SpiDisk.Proofs.Sim.Answers` — what a simulated card answers, and what becomes of its blocks

A card that listens to a command executes it and answers behind its gap, and the engine finds the
answer if the gap is short enough. What follows the answer is still pending in the card: a register,
the block of a read, or nothing at all while the card waits for the block of a write.

## Contents
- **Answers.** `asked` and what the commands make of it; `Answering` and `clean_ask`.
- **Blocks that come.** `clean_receiveBlock` and `clean_receiveError`.
- **Blocks that go.** `offer` and `clean_transmitBlock`, `clean_transmitStop`.
-/

namespace SpiDisk

namespace Command

/-- Whether a command other than the one that stops a read fits the six bits of a frame. -/
def Plain (index : UInt8) : Prop :=
  index ≠ stopTransmission.index ∧ (0x40 ||| index) &&& 0xC0 = 0x40 ∧ (0x40 ||| index) &&& 0x3F = index

instance (index : UInt8) : Decidable (Plain index) :=
  inferInstanceAs (Decidable (_ ∧ _ ∧ _))

end Command

namespace SimCard

/-! ## Answers -/

/-- The card listening to its first command since it was at rest. -/
def asked (card : SimCard) : SimCard :=
  { card.rested.listening with appPending := false }

theorem core_accept_asked {card : SimCard} (hpresent : card.knobs.present = true) {index : UInt8}
    (hindex : (0x40 ||| index) &&& 0x3F = index) (argument : UInt32) :
    (card.rested.listening.accept (Command.frame index argument)).core =
      (card.asked.execute index argument card.appPending).core := by
  have hpresent : card.rested.listening.knobs.present = true := hpresent
  exact accept_frame hpresent hindex argument

/-- The gap in front of an answer, the answer, and what is to follow. -/
def answer (card : SimCard) (r1 : UInt8) (rest : List UInt8) : SimCard :=
  card.saying (List.replicate card.knobs.responseGap idleByte ++ r1 :: rest)

/-- Whatever the answer to a command, the card is listening behind it, is not busy, and is made of what it
    was. -/
theorem answer_kept {card next : SimCard} {index : UInt8} {argument : UInt32} {app : Bool} {r1 : UInt8}
    {rest : List UInt8} (h : (card.asked.execute index argument app).core = next.answer r1 rest) :
    next.media = card.media ∧ next.selected = true ∧ next.busy = .bytes 0 := by
  have hkept := card.asked.execute_kept index argument app
  have hmedia : (next.answer r1 rest).media = card.media := by
    rw [← h]
    exact hkept.1
  have hselected : (next.answer r1 rest).selected = true := by
    rw [← h]
    exact hkept.2.1
  have hfree : (next.answer r1 rest).busy = .bytes 0 := by
    rw [← h]
    exact hkept.2.2
  exact ⟨hmedia, hselected, hfree⟩

/-- An answer behind a short gap is found, and what follows it is left to be read. -/
theorem poll_answer {card : SimCard} (hselected : card.selected = true)
    (hgap : card.knobs.responseGap < responsePolls) {r1 : UInt8} (hanswer : R1.isAnswer r1 = true)
    (rest : List UInt8) : (card.answer r1 rest).poll responsePolls = (r1, card.saying rest) :=
  poll_of_gap hgap (show (card.answer r1 rest).selected = true from hselected) hanswer rfl

/-- A status followed by more output is one answer. -/
theorem emit_respond {card : SimCard} (hout : card.out = []) (r1 : UInt8) (rest : List UInt8) :
    (card.respond [r1]).emit rest = card.answer r1 rest := by
  show card.saying (card.out ++ List.replicate card.knobs.responseGap idleByte ++ [r1] ++ rest) = _
  rw [hout, List.nil_append, List.append_assoc, List.singleton_append, answer]

theorem respond_of_silent {card : SimCard} (hout : card.out = []) (r1 : UInt8)
    (rest : List UInt8) : card.respond (r1 :: rest) = card.answer r1 rest := by
  show card.saying (card.out ++ List.replicate card.knobs.responseGap idleByte ++ (r1 :: rest)) = _
  rw [hout, List.nil_append, answer]

theorem status_of_idle {card : SimCard} (hidle : card.idle = true) : card.status = R1.idle := by
  unfold status
  rw [hidle]
  rfl

theorem status_of_ready {card : SimCard} (hready : card.idle = false) : card.status = R1.ready := by
  unfold status
  rw [hready]
  rfl

/-- A single read: the block follows an idle byte. -/
theorem asked_readSingle (card : SimCard) (argument : UInt32) (app : Bool) :
    card.asked.execute Command.readSingle.index argument app =
      card.asked.answer R1.ready (idleByte :: card.blockBytes (card.sectorOf argument)) :=
  emit_respond rfl _ _

/-- A multiple read: the blocks start to run. -/
theorem asked_readMultiple (card : SimCard) (argument : UInt32) (app : Bool) :
    card.asked.execute Command.readMultiple.index argument app =
      answer { card.asked with stream := some (card.sectorOf argument) } R1.ready [] :=
  respond_of_silent rfl _ _

theorem asked_writeSingle (card : SimCard) (argument : UInt32) (app : Bool) :
    card.asked.execute Command.writeSingle.index argument app =
      (card.asked.taking (.token (card.sectorOf argument) false)).answer R1.ready [] :=
  respond_of_silent rfl _ _

theorem asked_writeMultiple (card : SimCard) (argument : UInt32) (app : Bool) :
    card.asked.execute Command.writeMultiple.index argument app =
      (card.asked.taking (.token (card.sectorOf argument) true)).answer R1.ready [] :=
  respond_of_silent rfl _ _

/-- A card that knows application commands takes notice of one. -/
theorem asked_appNotice {card : SimCard} (hkind : card.kind ≠ .mmc) (argument : UInt32)
    (app : Bool) :
    card.asked.execute Command.appNotice.index argument app =
      answer { card.asked with appPending := true } card.status [] := by
  have hexecute : card.asked.execute Command.appNotice.index argument app =
      if card.kind = .mmc then card.asked.respond [card.illegal]
      else respond { card.asked with appPending := true } [card.status] := rfl
  rw [hexecute, if_neg hkind]
  exact respond_of_silent rfl _ _

theorem asked_setEraseCount (card : SimCard) (argument : UInt32) :
    card.asked.execute Command.setEraseCount.index argument true = card.asked.answer R1.ready [] :=
  respond_of_silent rfl _ _

/-- The stop command replaces what is pending by a byte that means nothing and the status. -/
theorem poll_stop {card : SimCard} (hselected : card.selected = true)
    (hphase : card.phase = .command []) (hpresent : card.knobs.present = true) (argument : UInt32) :
    ((card.receiveMany (Command.frame Command.stopTransmission.index argument)).core.next.2.poll
      responsePolls) =
        (R1.ready, { card.core with appPending := false, stream := none, out := [] }) := by
  have hframe : card.receiveMany (Command.frame Command.stopTransmission.index argument) =
      card.accept (Command.frame Command.stopTransmission.index argument) :=
    receiveMany_frame hselected hphase (by decide) argument
  let stopped : SimCard := { card.core with appPending := false, stream := none }
  have hselected : stopped.selected = true := hselected
  have hcard : (card.receiveMany (Command.frame Command.stopTransmission.index argument)).core =
      stopped.saying (0x5A :: (List.replicate 1 idleByte ++ [R1.ready])) := by
    rw [hframe, accept_frame hpresent (by decide)]
    rfl
  have hstatus : (stopped.saying (List.replicate 1 idleByte ++ [R1.ready])).poll responsePolls =
      (R1.ready, stopped.saying []) := by
    have hgap : 1 < responsePolls := by decide
    have hready : R1.isAnswer R1.ready = true := by decide
    have hstill : (stopped.saying (List.replicate 1 idleByte ++ [R1.ready])).selected = true :=
      hselected
    exact poll_of_gap hgap hstill hready rfl
  rw [hcard, next_saying hselected, hstatus]
  rfl

/-! ## Blocks that go -/

/-- What a card makes of a block that it was sent whole. -/
def offer (card : SimCard) (lba : UInt32) (multi : Bool) (block : List UInt8) : UInt8 × SimCard :=
  let card := { card with writeAttempts := card.writeAttempts + 1 }
  let phase := if multi then Phase.token (lba + 1) multi else .command []
  if card.knobs.failWriteBlock = some card.writeAttempts then (0x0D, { card with phase, out := [] })
  else
    (0x05, { card with
      phase
      out := []
      storage := (lba, block) :: card.storage
      busy := card.knobs.busyAfterBlock })

theorem receive_token {card : SimCard} {lba : UInt32} {multi : Bool}
    (hphase : card.phase = .token lba multi) :
    card.receive (if multi then Token.startMultiWrite else Token.startBlock) =
      { card with phase := .block lba multi [], writeAttempts := card.writeAttempts + 1 } := by
  unfold receive
  rw [hphase]
  exact if_pos rfl

theorem receive_stopToken {card : SimCard} {lba : UInt32} (hphase : card.phase = .token lba true) :
    card.receive Token.stopMultiWrite =
      { card with
        phase := .command []
        busy := card.knobs.busyAfterBlock
        log.stopTokens := card.log.stopTokens + 1 } := by
  unfold receive
  rw [hphase]
  rfl

/-- Bytes that do not yet make a block whole are put together. -/
theorem foldl_receive_block (card : SimCard) (lba : UInt32) (multi : Bool) (data bytes : List UInt8)
    (hlength : data.length + bytes.length < blockLength) :
    bytes.foldl receive (card.taking (.block lba multi data)) =
      card.taking (.block lba multi (bytes.reverse ++ data)) := by
  induction bytes generalizing data with
  | nil => rfl
  | cons byte bytes ih =>
    rw [List.length_cons] at hlength
    have hshort : (byte :: data).length < blockLength := by
      rw [List.length_cons]
      omega
    have hnext : (card.taking (.block lba multi data)).receive byte =
        card.taking (.block lba multi (byte :: data)) := by
      show (if _ then _ else _) = _
      exact if_pos hshort
    have hmore : (byte :: data).length + bytes.length < blockLength := by
      rw [List.length_cons]
      omega
    rw [List.foldl_cons, hnext, ih _ hmore, List.reverse_cons, List.append_assoc,
      List.singleton_append]

theorem receive_last_of_block (card : SimCard) (lba : UInt32) (multi : Bool) {data : List UInt8}
    (byte : UInt8) (hlength : data.length + 1 = blockLength) :
    (card.taking (.block lba multi data)).receive byte =
      card.store lba multi (byte :: data).reverse := by
  have hwhole : ¬ (byte :: data).length < blockLength := by
    rw [List.length_cons]
    omega
  show (if _ then _ else _) = _
  exact if_neg hwhole

/-- A token, a block and two bytes of checksum are one block to store. -/
theorem receiveMany_block {card : SimCard} (hselected : card.selected = true) {lba : UInt32}
    {multi : Bool} (hphase : card.phase = .token lba multi) {block : List UInt8}
    (hlength : block.length = sectorSize) :
    ((card.receiveMany [if multi then Token.startMultiWrite else Token.startBlock]).receiveMany
      block).receiveMany [idleByte, idleByte] =
        store { card with writeAttempts := card.writeAttempts + 1 } lba multi
          (block ++ [idleByte, idleByte]) := by
  -- the card that counted the block
  let counted : SimCard := { card with writeAttempts := card.writeAttempts + 1 }
  have hcounted : ∀ phase, (counted.taking phase).selected = true := fun _ => hselected
  have htoken : card.receiveMany [if multi then Token.startMultiWrite else Token.startBlock] =
      counted.taking (.block lba multi []) := by
    rw [receiveMany_of_selected hselected, List.foldl_cons, List.foldl_nil, receive_token hphase]
    rfl
  have hblock : (counted.taking (.block lba multi [])).receiveMany block =
      counted.taking (.block lba multi block.reverse) := by
    have hshort : ([] : List UInt8).length + block.length < blockLength := by
      rw [hlength]
      decide
    have hfold := foldl_receive_block counted lba multi [] block hshort
    rw [List.append_nil] at hfold
    rw [receiveMany_of_selected (hcounted _), hfold]
  have hfirst : (counted.taking (.block lba multi block.reverse)).receive idleByte =
      counted.taking (.block lba multi (idleByte :: block.reverse)) := by
    have hshort : block.reverse.length + [idleByte].length < blockLength := by
      rw [List.length_reverse, hlength]
      decide
    exact foldl_receive_block counted lba multi block.reverse [idleByte] hshort
  have hlast : (counted.taking (.block lba multi (idleByte :: block.reverse))).receive idleByte =
      counted.store lba multi (block ++ [idleByte, idleByte]) := by
    rw [receive_last_of_block]
    · rw [List.reverse_cons, List.reverse_cons, List.reverse_reverse, List.append_assoc]
      rfl
    · rw [List.length_cons, List.length_reverse, hlength]
      rfl
  rw [htoken, hblock, receiveMany_of_selected (hcounted _), List.foldl_cons, List.foldl_cons,
    List.foldl_nil, hfirst, hlast]

/-- The byte that is read behind a block tells what the card made of it. -/
theorem next_store {card : SimCard} (hselected : card.selected = true) (hout : card.out = [])
    {lba : UInt32} {multi : Bool} {block : List UInt8} (hlength : block.length = sectorSize) :
    (store { card with writeAttempts := card.writeAttempts + 1 } lba multi
      (block ++ [idleByte, idleByte])).core.next = card.core.offer lba multi block := by
  have hblock : (block ++ [idleByte, idleByte]).take sectorSize = block := by
    rw [List.take_append_of_le_length (Nat.le_of_eq hlength.symm), List.take_of_length_le
      (Nat.le_of_eq hlength)]
  unfold store offer
  rw [hblock]
  dsimp only
  rw [show card.core.knobs = card.knobs from rfl,
    show card.core.writeAttempts = card.writeAttempts from rfl]
  split
  · have hpending : card.out ++ [0x0D] = [0x0D] := by rw [hout, List.nil_append]
    refine next_of_out ?_ ?_
    · exact hselected
    · exact hpending
  · have hpending : card.out ++ [0x05] = [0x05] := by rw [hout, List.nil_append]
    refine next_of_out ?_ ?_
    · exact hselected
    · exact hpending

end SimCard

namespace ChannelM

open SessionM CardEngine

variable {H C : Type} [CardBoard H] [TickSource C]

/-! ## Asking -/

omit [TickSource C] in
/-- A channel on a clean board, bound to a line, whose card is there and answers soon enough. -/
structure Answering (s : Session (Channel H) C) : Prop where
  clean : s.Clean
  bound : s.device.line ≠ none
  settled : Settled s
  present : s.sim.knobs.present = true
  gap : s.sim.knobs.responseGap < responsePolls

/-- A card that answers goes on answering, whatever it was asked. -/
theorem Answering.served {s s' : Session (Channel H) C} (h : Answering s) (hserved : Served s s')
    (hknobs : s'.sim.knobs = s.sim.knobs) (hsettled : Settled s') : Answering s' where
  clean := hserved.clean h.clean
  bound := by rw [hserved.line]; exact h.bound
  settled := hsettled
  present := by rw [hknobs]; exact h.present
  gap := by rw [hknobs]; exact h.gap

omit [TickSource C] in
theorem settled_of_owns {s : Session (Channel H) C} (h : s.device.owns = true) : Settled s := by
  intro haway
  rw [h] at haway
  cases haway

/-- The card was left alone because it had stayed busy for too long. -/
structure Refused (s s' : Session (Channel H) C) (r1 : UInt8) : Prop where
  status : r1 = idleByte
  owns : s'.device.owns = false
  card : ∃ done, s'.sim = s.sim.rested.waiting (s.sim.busy.less done)
  late : ∀ limit, s.sim.busy = .bytes limit → ¬ Patient limit s.env.clock

/-- **Asking.** A command is answered by the card, or the card was busy for too long. -/
theorem clean_ask (patience : Nat) {index : UInt8} (hindex : Command.Plain index)
    (argument : UInt32) {s : Session (Channel H) C} (h : Answering s) {card : SimCard} {r1 : UInt8}
    {rest : List UInt8} (hanswer : R1.isAnswer r1 = true)
    (hexecute : (s.sim.asked.execute index argument s.sim.appPending).core = card.answer r1 rest) :
    Ensures (sendPlain patience index argument) s fun status s' =>
      Served s s' ∧ (s'.device.owns = true ∧ status = r1 ∧ s'.sim = card.saying rest ∨
        Refused s s' status) := by
  obtain ⟨hplain, hstart, hmask⟩ := hindex
  obtain ⟨hmedia, hselected, -⟩ := SimCard.answer_kept hexecute
  have hgap : card.knobs.responseGap < responsePolls := by
    rw [SimCard.knobs_of_media hmedia]
    exact h.gap
  refine (clean_sendPlain patience hplain hstart argument h.clean h.bound h.settled).mono ?_
  rintro status s' ⟨hserved, ⟨howns, hpoll⟩ | ⟨howns, hstatus, hcard, hlate⟩⟩
  · rw [SimCard.core_accept_asked h.present hmask, hexecute,
      SimCard.poll_answer hselected hgap hanswer] at hpoll
    obtain ⟨hr1, hsim⟩ := Prod.mk.inj hpoll
    exact ⟨hserved, .inl ⟨howns, hr1, hsim⟩⟩
  · exact ⟨hserved, .inr ⟨hstatus, howns, hcard, hlate⟩⟩

/-- A card that is not busy for too long is found ready, and answers. -/
theorem Answering.ask {s : Session (Channel H) C} (h : Answering s) (patience : Nat)
    {index : UInt8} (hindex : Command.Plain index) (argument : UInt32)
    (hready : ∃ limit, s.sim.busy = .bytes limit ∧ Patient limit s.env.clock) {card : SimCard}
    {r1 : UInt8} {rest : List UInt8} (hanswer : R1.isAnswer r1 = true)
    (hexecute : (s.sim.asked.execute index argument s.sim.appPending).core = card.answer r1 rest) :
    Ensures (sendPlain patience index argument) s fun status s' =>
      Served s s' ∧ s'.device.owns = true ∧ status = r1 ∧ s'.sim = card.saying rest := by
  refine (clean_ask patience hindex argument h hanswer hexecute).mono ?_
  rintro status s' ⟨hserved, ⟨howns, hstatus, hsim⟩ | hrefused⟩
  · exact ⟨hserved, howns, hstatus, hsim⟩
  · obtain ⟨limit, hbusy, hpatient⟩ := hready
    exact absurd hpatient (hrefused.late limit hbusy)

/-- The stop command ends a running read. -/
theorem clean_sendStop (patience : Nat) (argument : UInt32) {s : Session (Channel H) C}
    (h : s.Clean) (hselected : s.sim.selected = true) (hphase : s.sim.phase = .command [])
    (hpresent : s.sim.knobs.present = true) :
    Ensures (send patience Command.stopTransmission argument) s fun _ s' =>
      s'.sim = { s.sim with appPending := false, stream := none, out := [] } ∧ Moved 0 s s' := by
  refine (clean_exchangeStop argument h).mono fun r1 s' ⟨hpoll, hmoved⟩ => ⟨?_, hmoved⟩
  rw [SimCard.poll_stop hselected hphase hpresent] at hpoll
  exact (Prod.mk.inj hpoll).2

/-! ## Blocks that come -/

/-- A token that follows one idle byte is found, unless the clock runs out at once. -/
theorem clean_token (patience : Nat) {s : Session (Channel H) C} (h : s.Clean) {card : SimCard}
    (hselected : card.selected = true) {token : UInt8} {rest : List UInt8}
    (hnext : s.sim.next = (idleByte, card.saying (token :: rest))) (htoken : token ≠ idleByte) :
    Ensures (pollUntil (Deadline.start s.env.clock dataTimeout).1 (do
        let byte ← readByte
        pure (if byte = idleByte then none else some byte)) patience)
      { s with env.clock := (TickSource.now s.env.clock).2 } fun result s' =>
        (∃ readings, Moved readings s s') ∧
          (result = some token ∧ s'.sim = card.saying rest ∨
            result = none ∧ ¬ Patient 1 s.env.clock) := by
  have hstart : Moved 1 s { s with env.clock := (TickSource.now s.env.clock).2 } :=
    (Moved.refl s).tick
  have hfirst : s.sim.heard 0 = idleByte := by
    show s.sim.next.1 = idleByte
    rw [hnext]
  have hafter : s.sim.after 1 = card.saying (token :: rest) := by
    show s.sim.next.2 = _
    rw [hnext]
  have hsecond : (s.sim.after 1).next = (token, card.saying rest) := by
    rw [hafter, SimCard.next_saying hselected]
  have hearlier : ∀ earlier < 1, (if s.sim.heard earlier = idleByte then none
      else some (s.sim.heard earlier)) = none := by
    intro earlier hlt
    rw [Nat.lt_one_iff.mp hlt, hfirst, if_pos rfl]
  have hfound : (if s.sim.heard 1 = idleByte then none else some (s.sim.heard 1)) = some token := by
    rw [SimCard.heard, hsecond]
    exact if_neg htoken
  refine (clean_pollByte_first (fun byte => if byte = idleByte then none else some byte) patience
    (hstart.clean h) rfl hearlier hfound).mono ?_
  rintro result s' ⟨⟨readings, hmoved⟩, ⟨rfl, hsim, -⟩ | hlate⟩
  · refine ⟨⟨_, hstart.trans hmoved⟩, .inl ⟨rfl, ?_⟩⟩
    have hsim : s'.sim = s.sim.after 2 := hsim
    rw [hsim, SimCard.after_succ, hsecond]
  · exact ⟨⟨_, hstart.trans hmoved⟩, .inr hlate⟩

/-- **A block** that is pending behind an idle byte comes as it is, and its checksum goes. -/
theorem clean_receiveBlock (patience : Nat) {s : Session (Channel H) C} (h : s.Clean)
    {card : SimCard} (hselected : card.selected = true) {data check rest : List UInt8}
    (hcheck : check.length = 2) (hnext : s.sim.next =
      (idleByte, card.saying (Token.startBlock :: (data ++ (check ++ rest))))) :
    Ensures (receiveBlock patience data.length) s fun result s' =>
      (∃ readings, Moved readings s s') ∧
        (result = .ok data ∧ s'.sim = card.saying rest ∨
          result = .error .timeout ∧ ¬ Patient 1 s.env.clock) := by
  refine ensures_bind (ensures_startDeadline ?_)
  refine (clean_token patience h hselected hnext (by decide)).bind ?_
  rintro _ s₁ ⟨⟨m, hmoved₁⟩, ⟨rfl, hsim₁⟩ | ⟨rfl, hlate⟩⟩
  · dsimp only
    rw [if_pos rfl]
    have hdata : s₁.sim.transmitMany data.length = (data, card.saying (check ++ rest)) := by
      rw [hsim₁, SimCard.transmitMany_saying hselected]
    have hclean := hmoved₁.clean h
    refine (clean_read data.length hclean).bind ?_
    rintro bytes s₂ ⟨hbytes, hsim₂, hmoved₂⟩
    rw [hdata] at hbytes
    rw [SimCard.after, hdata] at hsim₂
    have hpending : s₂.sim.transmitMany 2 = (check, card.saying rest) := by
      rw [hsim₂, ← hcheck, SimCard.transmitMany_saying hselected]
    refine (clean_read 2 (hmoved₂.clean hclean)).bind ?_
    rintro _ s₃ ⟨-, hsim₃, hmoved₃⟩
    rw [SimCard.after, hpending] at hsim₃
    refine ensures_pure ⟨⟨_, hmoved₁.trans (hmoved₂.trans hmoved₃)⟩, .inl ⟨?_, hsim₃⟩⟩
    rw [hbytes]
  · refine (sim_report _ s₁).bind ?_
    rintro _ s₂ ⟨-, hmoved₂⟩
    exact ensures_pure ⟨⟨_, hmoved₁.trans hmoved₂⟩, .inr ⟨rfl, hlate⟩⟩

/-- An error token stands in the place of a block. -/
theorem clean_receiveError (patience count : Nat) {s : Session (Channel H) C} (h : s.Clean)
    {card : SimCard} (hselected : card.selected = true) {token : UInt8} {rest : List UInt8}
    (hnext : s.sim.next = (idleByte, card.saying (token :: rest))) (hidle : token ≠ idleByte)
    (hstart : token ≠ Token.startBlock) :
    Ensures (receiveBlock patience count) s fun result s' =>
      (∃ readings, Moved readings s s') ∧
        (result = .error .badResponse ∧ s'.sim = card.saying rest ∨
          result = .error .timeout ∧ ¬ Patient 1 s.env.clock) := by
  refine ensures_bind (ensures_startDeadline ?_)
  refine (clean_token patience h hselected hnext hidle).bind ?_
  rintro _ s₁ ⟨⟨m, hmoved₁⟩, ⟨rfl, hsim₁⟩ | ⟨rfl, hlate⟩⟩
  · dsimp only
    rw [if_neg hstart]
    refine (sim_report _ s₁).bind fun _ s₂ ⟨hsim₂, hmoved₂⟩ => ?_
    exact ensures_pure ⟨⟨_, hmoved₁.trans hmoved₂⟩, .inl ⟨rfl, hsim₂.trans hsim₁⟩⟩
  · refine (sim_report _ s₁).bind fun _ s₂ ⟨_, hmoved₂⟩ => ?_
    exact ensures_pure ⟨⟨_, hmoved₁.trans hmoved₂⟩, .inr ⟨rfl, hlate⟩⟩

/-! ## Blocks that go -/

/-- A card that is only busy is ready for a token in the end, unless the clock runs out. -/
theorem clean_readyFor (patience : Nat) (token : UInt8) {s : Session (Channel H) C} (h : s.Clean)
    (hselected : s.sim.selected = true) (hout : s.sim.out = []) (hstream : s.sim.stream = none) :
    Ensures (readyFor patience token) s fun ready s' =>
      (∃ readings, Moved readings s s') ∧
        (ready = true ∧ s'.sim = s.sim.waiting (.bytes 0) ∨
          ready = false ∧ ∀ limit, s.sim.busy = .bytes limit → ¬ Patient limit s.env.clock) := by
  refine (clean_waitReady patience h hselected hout hstream).bind ?_
  rintro (_ | _) s₁ ⟨⟨m, hmoved₁⟩, hready, hlate⟩
  · refine (sim_report _ s₁).bind fun _ s₂ ⟨_, hmoved₂⟩ => ?_
    exact ensures_pure ⟨⟨_, hmoved₁.trans hmoved₂⟩, .inr ⟨rfl, (hlate rfl).2⟩⟩
  · exact ensures_pure ⟨⟨_, hmoved₁⟩, .inl ⟨rfl, hready rfl⟩⟩

/-- **A block that is sent** comes to what the card makes of it. -/
theorem clean_transmitBlock (patience : Nat) {s : Session (Channel H) C} (h : s.Clean)
    (hselected : s.sim.selected = true) (hout : s.sim.out = []) (hstream : s.sim.stream = none)
    {lba : UInt32} {multi : Bool} (hphase : s.sim.phase = .token lba multi) {block : List UInt8}
    (hlength : block.length = sectorSize) :
    Ensures (transmitBlock patience (if multi then Token.startMultiWrite else Token.startBlock)
      block) s fun result s' =>
        (∃ readings, Moved readings s s') ∧
          (s'.sim = ((s.sim.waiting (.bytes 0)).offer lba multi block).2 ∧
              result = (if Token.accepts ((s.sim.waiting (.bytes 0)).offer lba multi block).1
                then .ok () else .error .badResponse) ∨
            result = .error .timeout ∧
              ∀ limit, s.sim.busy = .bytes limit → ¬ Patient limit s.env.clock) := by
  refine (clean_readyFor patience _ h hselected hout hstream).bind ?_
  rintro _ s₁ ⟨⟨m, hmoved₁⟩, ⟨rfl, hsim₁⟩ | ⟨rfl, hlate⟩⟩
  · rw [if_pos rfl]
    have hclean₁ := hmoved₁.clean h
    refine (clean_write _ hclean₁).bind fun _ s₂ ⟨hsim₂, hmoved₂⟩ => ?_
    have hclean₂ := hmoved₂.clean hclean₁
    refine (clean_write _ hclean₂).bind fun _ s₃ ⟨hsim₃, hmoved₃⟩ => ?_
    have hclean₃ := hmoved₃.clean hclean₂
    refine (clean_write _ hclean₃).bind fun _ s₄ ⟨hsim₄, hmoved₄⟩ => ?_
    have hclean₄ := hmoved₄.clean hclean₃
    refine (clean_readByte hclean₄).bind fun response s₅ ⟨hresponse, hsim₅, hmoved₅⟩ => ?_
    have hmoved : ∃ readings, Moved readings s s₅ :=
      ⟨_, hmoved₁.trans (hmoved₂.trans (hmoved₃.trans (hmoved₄.trans hmoved₅)))⟩
    -- the three writes together make one block
    have hstored : s₄.sim.next = (s.sim.waiting (.bytes 0)).offer lba multi block := by
      have hselected : (s.sim.waiting (.bytes 0)).selected = true := hselected
      have hphase : (s.sim.waiting (.bytes 0)).phase = .token lba multi := hphase
      have hout : (s.sim.waiting (.bytes 0)).out = [] := hout
      have hwrites : s₄.sim = ((((s.sim.waiting (.bytes 0)).receiveMany
          [if multi then Token.startMultiWrite else Token.startBlock]).receiveMany block).receiveMany
            [idleByte, idleByte]).core := by
        rw [hsim₄, hsim₃, SimCard.core_receiveMany, hsim₂, hsim₁]
        exact SimCard.receiveMany_congr (SimCard.core_receiveMany _ block) _
      rw [hwrites, SimCard.receiveMany_block hselected hphase hlength,
        SimCard.next_store hselected hout hlength]
      rfl
    rw [hstored] at hresponse hsim₅
    rw [← hresponse]
    cases haccepts : Token.accepts response with
    | true => exact ensures_pure ⟨hmoved, .inl ⟨hsim₅, rfl⟩⟩
    | false =>
      refine (sim_report _ s₅).bind fun _ s₆ ⟨hsim₆, hmoved₆⟩ => ?_
      obtain ⟨m, hmoved⟩ := hmoved
      exact ensures_pure ⟨⟨_, hmoved.trans hmoved₆⟩, .inl ⟨hsim₆.trans hsim₅, rfl⟩⟩
  · rw [if_neg (by decide)]
    exact ensures_pure ⟨⟨_, hmoved₁⟩, .inr ⟨rfl, hlate⟩⟩

/-- The token that ends a multiple write. -/
theorem clean_transmitStop (patience : Nat) {s : Session (Channel H) C} (h : s.Clean)
    (hselected : s.sim.selected = true) (hout : s.sim.out = []) (hstream : s.sim.stream = none)
    {lba : UInt32} (hphase : s.sim.phase = .token lba true) :
    Ensures (transmitStop patience) s fun result s' =>
      (∃ readings, Moved readings s s') ∧
        (result = .ok () ∧ s'.sim =
            { s.sim with phase := .command [], busy := s.sim.knobs.busyAfterBlock } ∨
          result = .error .timeout ∧
            ∀ limit, s.sim.busy = .bytes limit → ¬ Patient limit s.env.clock) := by
  refine (clean_readyFor patience _ h hselected hout hstream).bind ?_
  rintro _ s₁ ⟨⟨m, hmoved₁⟩, ⟨rfl, hsim₁⟩ | ⟨rfl, hlate⟩⟩
  · rw [if_pos rfl]
    refine (clean_write _ (hmoved₁.clean h)).bind fun _ s₂ ⟨hsim₂, hmoved₂⟩ => ?_
    refine ensures_pure ⟨⟨_, hmoved₁.trans hmoved₂⟩, .inl ⟨rfl, ?_⟩⟩
    have hselected : (s.sim.waiting (.bytes 0)).selected = true := hselected
    have hphase : (s.sim.waiting (.bytes 0)).phase = .token lba true := hphase
    rw [hsim₂, hsim₁, SimCard.receiveMany_of_selected hselected, List.foldl_cons, List.foldl_nil,
      SimCard.receive_stopToken hphase]
    rfl
  · rw [if_neg (by decide)]
    exact ensures_pure ⟨⟨_, hmoved₁⟩, .inr ⟨rfl, hlate⟩⟩

end ChannelM

end SpiDisk
