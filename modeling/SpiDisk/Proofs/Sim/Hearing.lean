import SpiDisk.Proofs.Sim.Identification
import SpiDisk.Proofs.Sim.Losses

/-!
# `SpiDisk.Proofs.Sim.Hearing` — boards that fail no read

A board that fails no read tells its caller the truth, and what it loses is lost on the way to the
card. An operation that writes nothing does not depend on the writes that are going to fail: it runs as it
would with the board repaired. A command is lost with the first of its bytes that is, so that it is
answered as on a board that fails no call, or not at all.

## Contents
- **Repair.** `Faulty.repaired`, and `Reads`, the operations that do not notice it.
- **Reading.** `reads_receiveBlocks` and the other operations that only read.
- **Hearing.** `hearing_invariant`: no operation makes a board fail reads.
- **Commands.** `hearing_sendPlain`, and `Attentive`, a card that answers what it hears.
-/

namespace SpiDisk

/-! ## Repair -/

/-- The board with no failure in store for its writes and flushes. -/
def Faulty.repaired {H : Type} (board : Faulty H) : Faulty H :=
  { board with
    schedule.write := fun _ => false
    schedule.flush := fun _ => false }

/-- The session on the repaired board. -/
def Session.repaired {H C : Type} (s : Session (Channel (Faulty H)) C) :
    Session (Channel (Faulty H)) C :=
  { s with device.host := s.device.host.repaired }

namespace ChannelM

open SessionM CardEngine

variable {H C α β : Type}

/-- `action` comes to the same on the repaired board. -/
def Reads (action : ChannelM (Faulty H) C α) : Prop :=
  ∀ s, action s.repaired = (action s).map fun outcome => (outcome.1, outcome.2.repaired)

/-- What an operation ensures on the repaired board, it ensures on the board as it is. -/
theorem Reads.ensures {action : ChannelM (Faulty H) C α} (h : Reads action)
    {s : Session (Channel (Faulty H)) C} {post : α → Session (Channel (Faulty H)) C → Prop}
    (hrepaired : Ensures action s.repaired post) :
    Ensures action s fun a s' => post a s'.repaired := by
  intro a s' hrun
  apply hrepaired
  rw [h s, hrun]
  rfl

theorem reads_pure (a : α) : Reads (pure a : ChannelM (Faulty H) C α) :=
  fun _ => rfl

theorem Reads.bind {first : ChannelM (Faulty H) C α} {next : α → ChannelM (Faulty H) C β}
    (h : Reads first) (hnext : ∀ a, Reads (next a)) : Reads (first >>= next) := by
  intro s
  rw [bind_apply, bind_apply, h s]
  cases first s with
  | none => rfl
  | some outcome => exact hnext outcome.1 outcome.2

theorem reads_report {N : Type} [Diagnostic N] (event : N) :
    Reads (report event : ChannelM (Faulty H) C Unit) :=
  fun _ => rfl

section Clock

variable [TickSource C]

theorem reads_startDeadline (ms : UInt32) :
    Reads (startDeadline ms : ChannelM (Faulty H) C Deadline) :=
  fun _ => rfl

theorem reads_hasPassed (deadline : Deadline) :
    Reads (hasPassed deadline : ChannelM (Faulty H) C Bool) :=
  fun _ => rfl

theorem reads_pollUntil (deadline : Deadline) {attempt : ChannelM (Faulty H) C (Option α)}
    (h : Reads attempt) (patience : Nat) : Reads (pollUntil deadline attempt patience) := by
  induction patience with
  | zero => exact fun _ => rfl
  | succ patience ih =>
    refine h.bind ?_
    rintro (_ | value)
    · refine (reads_hasPassed deadline).bind fun passed => ?_
      cases passed with
      | true => exact reads_pure none
      | false => exact ih
    · exact reads_pure (some value)

end Clock

/-! ## Reading -/

variable [Host H]

theorem reads_shiftIn (count : Nat) : Reads (shiftIn count : ChannelM (Faulty H) C (List UInt8)) := by
  have hcall : Reads (onDevice (Channel.callRead count) :
      ChannelM (Faulty H) C (List UInt8 × Option Fault)) := fun _ => rfl
  refine hcall.bind ?_
  rintro ⟨bytes, _ | fault⟩
  · exact reads_pure bytes
  · exact (reads_report _).bind fun _ => reads_pure _

theorem reads_readPaced (count : Nat) :
    Reads (readPaced count : ChannelM (Faulty H) C (List UInt8)) := by
  induction count with
  | zero => exact reads_pure []
  | succ count ih =>
    have hpause : Reads (onDevice (Channel.callPause slowPause) : ChannelM (Faulty H) C Unit) :=
      fun _ => rfl
    refine (reads_shiftIn 1).bind fun byte => hpause.bind fun _ => ih.bind fun rest => ?_
    exact reads_pure (byte ++ rest)

theorem reads_read (count : Nat) : Reads (read count : ChannelM (Faulty H) C (List UInt8)) := by
  intro s
  -- the speed is the same on the repaired board
  cases hspeed : s.device.speed with
  | fast =>
    rw [read_fast count hspeed, read_fast count (s := s.repaired) hspeed]
    exact reads_shiftIn count s
  | slow =>
    rw [read_slow count hspeed, read_slow count (s := s.repaired) hspeed]
    exact reads_readPaced count s

theorem reads_readByte : Reads (readByte : ChannelM (Faulty H) C UInt8) :=
  (reads_read 1).bind fun bytes => reads_pure (bytes.headD idleByte)

theorem reads_readWord : Reads (readWord : ChannelM (Faulty H) C UInt32) :=
  (reads_read 4).bind fun _ => reads_pure _

theorem reads_awaitResponse (polls : Nat) :
    Reads (awaitResponse polls : ChannelM (Faulty H) C UInt8) := by
  induction polls with
  | zero => exact reads_pure idleByte
  | succ polls ih =>
    refine reads_readByte.bind fun byte => ?_
    split
    · exact reads_pure byte
    · split
      · exact reads_pure byte
      · exact ih

variable [TickSource C]

theorem reads_waitReady (patience : Nat) :
    Reads (waitReady patience : ChannelM (Faulty H) C Bool) := by
  refine (reads_startDeadline _).bind fun deadline => ?_
  refine (reads_pollUntil deadline ?_ patience).bind fun ready => reads_pure _
  exact reads_readByte.bind fun byte => reads_pure _

theorem reads_receiveBlock (patience count : Nat) :
    Reads (receiveBlock patience count : ChannelM (Faulty H) C (Except CardError (List UInt8))) := by
  refine (reads_startDeadline _).bind fun deadline => ?_
  have hbyte : Reads (do
      let byte ← readByte
      pure (if byte = idleByte then none else some byte) : ChannelM (Faulty H) C (Option UInt8)) :=
    reads_readByte.bind fun byte => reads_pure _
  refine (reads_pollUntil deadline hbyte patience).bind ?_
  rintro (_ | token)
  · exact (reads_report _).bind fun _ => reads_pure _
  · dsimp only
    split
    · exact (reads_read count).bind fun bytes => (reads_read 2).bind fun _ => reads_pure _
    · exact (reads_report _).bind fun _ => reads_pure _

theorem reads_receiveBlocks (patience count : Nat) :
    Reads (receiveBlocks patience count :
      ChannelM (Faulty H) C (List (List UInt8) × Except CardError Unit)) := by
  induction count with
  | zero => exact reads_pure _
  | succ count ih =>
    refine (reads_receiveBlock patience sectorSize).bind ?_
    rintro (error | block)
    · exact reads_pure _
    · exact ih.bind fun _ => reads_pure _

end ChannelM

/-! ## Hearing -/

/-- A write leaves the repaired board clean, whether or not it fails. -/
theorem Faulty.clean_repaired_write {H : Type} [CardBoard H] {board : Faulty H}
    (h : CardBoard.Clean board.repaired) (bytes : List UInt8) :
    CardBoard.Clean (ByteBus.write board bytes).2.repaired := by
  cases hlost : board.schedule.write board.writes with
  | true =>
    simp only [ByteBus.write, hlost]
    exact h
  | false =>
    simp only [ByteBus.write, hlost]
    exact ⟨(CardBoard.write_clean board.inner bytes h.1).2, h.2⟩

theorem Faulty.clean_repaired_flush {H : Type} [CardBoard H] {board : Faulty H}
    (h : CardBoard.Clean board.repaired) :
    CardBoard.Clean (ByteBus.flush board).2.repaired := by
  cases hlost : board.schedule.flush board.flushes with
  | true =>
    simp only [ByteBus.flush, hlost]
    exact h
  | false =>
    simp only [ByteBus.flush, hlost]
    exact ⟨CardBoard.flush_clean board.inner h.1, h.2⟩

namespace SimCard

/-- Fewer bytes than a frame has make no command: the card goes on waiting for one. -/
theorem foldl_receive_few (card : SimCard) (frame bytes : List UInt8)
    (hfew : frame.length + bytes.length < 6) :
    ∃ part, bytes.foldl receive (card.taking (.command frame)) = card.taking (.command part) := by
  -- on the bytes to come, with as much of a frame as there is already
  induction bytes generalizing frame with
  | nil => exact ⟨frame, rfl⟩
  | cons byte bytes ih =>
    rw [List.length_cons] at hfew
    rw [List.foldl_cons]
    have hnext : (card.taking (.command frame)).receive byte = card.taking (.command frame) ∨
        (card.taking (.command frame)).receive byte = card.taking (.command (frame ++ [byte])) := by
      have hshort : (frame ++ [byte]).length ≠ 6 := by
        rw [List.length_append, List.length_singleton]
        omega
      by_cases hstray : (frame.isEmpty && byte &&& 0xC0 != 0x40) = true
      · exact .inl (if_pos hstray)
      · exact .inr ((if_neg hstray).trans (if_neg hshort))
    rcases hnext with hnext | hnext
    · rw [hnext]
      exact ih frame (by omega)
    · rw [hnext]
      apply ih
      rw [List.length_append, List.length_singleton]
      omega

/-- **Part of a frame** is no command, and a card at rest stays silent behind it. -/
theorem receiveMany_fragment {card : SimCard} (hselected : card.selected = true)
    (hphase : card.phase = .command []) {index : UInt8} {argument : UInt32} {heard : List UInt8}
    (hheard : heard.Sublist (Command.frame index argument)) :
    heard = Command.frame index argument ∨
      ∃ part, card.receiveMany heard = card.taking (.command part) := by
  -- a frame has six bytes, and only the whole of it is as long
  rcases Nat.lt_or_ge heard.length 6 with hfew | hmany
  · have hsame : card.taking (.command []) = card := by rw [taking, ← hphase]
    obtain ⟨part, hpart⟩ := card.foldl_receive_few [] heard (by simpa using hfew)
    rw [hsame] at hpart
    exact .inr ⟨part, (receiveMany_of_selected hselected heard).trans hpart⟩
  · exact .inl (hheard.eq_of_length_le hmany)

/-- Reading leaves alone what a card is made of, and a card that is not busy. -/
theorem next_kept {card : SimCard} (hfree : card.busy = .bytes 0) :
    card.next.2.media = card.media ∧ card.next.2.busy = .bytes 0 := by
  unfold next transmit
  split
  · split
    · exact ⟨rfl, hfree⟩
    · simp only [hfree]
      cases card.stream with
      | none => exact ⟨rfl, hfree⟩
      | some lba => exact ⟨rfl, rfl⟩
  · exact ⟨rfl, hfree⟩

theorem poll_kept (polls : Nat) {card : SimCard} (hfree : card.busy = .bytes 0) :
    (card.poll polls).2.media = card.media ∧ (card.poll polls).2.busy = .bytes 0 := by
  induction polls generalizing card with
  | zero => exact ⟨rfl, hfree⟩
  | succ polls ih =>
    obtain ⟨hmedia, hfree'⟩ := next_kept hfree
    rw [poll]
    split
    · exact ⟨hmedia, hfree'⟩
    · split
      · exact ⟨hmedia, hfree'⟩
      · rw [← hmedia]
        exact ih hfree'

end SimCard

namespace ChannelM

open SessionM CardEngine

variable {H C : Type} [CardBoard H] [TickSource C]

omit [TickSource C] in
/-- Whether the board fails no read. -/
def Hearing (s : Session (Channel (Faulty H)) C) : Prop :=
  s.repaired.Clean

theorem hearing_timed : Timed anyFrame (Hearing : Session (Channel (Faulty H)) C → Prop) where
  toSteady := CallSteady.steady
    { log := fun _ h => h
      callRead := fun {s} count h => (CardBoard.read_clean s.repaired.device.host count h).2
      callWrite := fun bytes _ h => Faulty.clean_repaired_write h bytes
      callPause := fun {s} us h => CardBoard.pause_clean s.repaired.device.host us h }
  tick h := h

theorem hearing_invariant :
    BusInvariant anyFrame (Hearing : Session (Channel (Faulty H)) C → Prop) where
  harmless _ _ := trivial
  log := hearing_timed.log
  tick := hearing_timed.tick
  bytes := hearing_timed.toSteady.and (owned_timed true).toSteady
  callFlush _ h := Faulty.clean_repaired_flush h
  callDrive {s} mask _ h := CardBoard.drive_clean s.repaired.device.host mask h
  took _ _ h := h
  closed {s s'} _ h hrun := by
    refine keeps_deselect hearing_timed.toSteady Faulty.clean_repaired_flush ?_ s h () s' hrun
    intro s mask h
    exact CardBoard.drive_clean s.repaired.device.host mask h

variable {s s' : Session (Channel (Faulty H)) C}

/-- What moving bytes leaves alone, it leaves alone on the repaired board. -/
theorem moved_repaired {readings : Nat} (h : Moved readings s s') (hhearing : Hearing s') :
    Moved readings s.repaired s'.repaired :=
  ⟨h.line, h.owns, h.speed, h.bus, h.clock, fun _ => hhearing⟩

theorem served_repaired (h : Served s s') (hhearing : Hearing s') :
    Served s.repaired s'.repaired :=
  ⟨h.line, h.speed, h.clock, fun _ => hhearing⟩

/-! ## Commands -/

/-- Waiting for a card that is only busy, on a board that fails no read. -/
theorem hearing_waitReady (patience : Nat) (h : Hearing s) (hselected : s.sim.selected = true)
    (hout : s.sim.out = []) (hstream : s.sim.stream = none) :
    Ensures (waitReady patience) s fun ready s' =>
      (∃ readings, Moved readings s.repaired s'.repaired) ∧
        (ready = true → s'.sim = s.sim.waiting (.bytes 0)) ∧
        (ready = false → ∃ done, s'.sim = s.sim.waiting (s.sim.busy.less done)) := by
  have hclean : s.repaired.Clean := h
  have hsim : s.repaired.sim = s.sim := rfl
  rw [← hsim] at hselected hout hstream
  have hreads : Reads (waitReady patience : ChannelM (Faulty H) C Bool) := reads_waitReady patience
  refine (hreads.ensures (clean_waitReady patience hclean hselected hout hstream)).mono ?_
  rintro ready s' ⟨hmoved, hready, hlate⟩
  exact ⟨hmoved, hready, fun hno => (hlate hno).1⟩

/-- Selecting a card at rest, on a board that may lose what it is to write. -/
theorem hearing_selectCard (patience : Nat) (h : Hearing s) (hline : s.device.line ≠ none)
    (hrested : s.sim.rested = s.sim) :
    Ensures (selectCard patience) s fun ready s' =>
      Served s.repaired s'.repaired ∧ Hearing s' ∧ s'.device.owns = ready ∧
        (ready = true → s'.sim = s.sim.listening) ∧
        (ready = false → ∃ done, s'.sim = s.sim.waiting (s.sim.busy.less done)) := by
  have hout : s.sim.out = [] := by rw [← hrested]; rfl
  have hstream : s.sim.stream = none := by rw [← hrested]; rfl
  refine ((sim_selectCard (R := fun ready s₁ => Served s.repaired s₁.repaired ∧
    (ready = true → s₁.sim = s.sim.listening) ∧
    (ready = false → ∃ done, s₁.sim.rested = s.sim.rested.waiting (s.sim.busy.less done)))
    patience hline hrested ?_).and (hearing_invariant.throughout_selectCard patience h).back).mono ?_
  · intro s₁ hwoken
    have h₁ : Hearing s₁ := hwoken.kept hearing_invariant h
    have hbusy : s₁.sim.busy = s.sim.busy.less 1 := by rw [hwoken.sim]
    refine (hearing_waitReady patience h₁ (by rw [hwoken.sim]) (by rw [hwoken.sim]; exact hout)
      (by rw [hwoken.sim]; exact hstream)).mono ?_
    rintro ready s₂ ⟨⟨readings, hmoved₂⟩, hready, hlate⟩
    have hserved₂ : Served s.repaired s₂.repaired :=
      (served_repaired hwoken.served h₁).trans hmoved₂.served
    refine ⟨hserved₂, fun hyes => ?_, fun hno => ?_⟩
    · rw [hready hyes, hwoken.sim]
      rfl
    · obtain ⟨done, hsim₂⟩ := hlate hno
      -- the wait goes on where the dummy byte has left it
      refine ⟨1 + done, ?_⟩
      rw [hsim₂, hbusy, hwoken.sim, SimCard.less_less]
      rfl
  · rintro (_ | _) s₂ ⟨⟨howns₂, hready, hrest⟩, h₂, -⟩
    · obtain ⟨s₁, ⟨hserved₁, -, hlate⟩, hsim₂, -, hserved₂⟩ := hrest rfl
      obtain ⟨done, hsim₁⟩ := hlate rfl
      rw [hsim₁, hrested] at hsim₂
      exact ⟨hserved₁.trans (served_repaired hserved₂ h₂), h₂, howns₂, nofun, fun _ => ⟨done, hsim₂⟩⟩
    · obtain ⟨hserved₁, hlistening, -⟩ := hready rfl
      exact ⟨hserved₁, h₂, howns₂, hlistening, nofun⟩

/-- Waiting for an answer, on a board that fails no read. -/
theorem hearing_awaitResponse (polls : Nat) (h : Hearing s) :
    Ensures (awaitResponse polls) s fun r1 s' =>
      (r1, s'.sim) = s.sim.poll polls ∧ Moved 0 s.repaired s'.repaired := by
  have hclean : s.repaired.Clean := h
  have hreads : Reads (awaitResponse polls : ChannelM (Faulty H) C UInt8) :=
    reads_awaitResponse polls
  exact hreads.ensures (clean_awaitResponse polls hclean)

/-- A frame reaches the card whole, or what is left of it goes unanswered. -/
theorem hearing_exchangeFrame {index : UInt8} (hplain : index ≠ Command.stopTransmission.index)
    (hstart : (0x40 ||| index) &&& 0xC0 = 0x40) (argument : UInt32) (h : Hearing s)
    (hselected : s.sim.selected = true) (hphase : s.sim.phase = .command [])
    (hsilent : s.sim.Silent) :
    Ensures (exchangeFrame index argument) s fun r1 s' =>
      Moved 0 s.repaired s'.repaired ∧
        ((r1, s'.sim) = (s.sim.accept (Command.frame index argument)).core.poll responsePolls ∨
          r1 = idleByte ∧ ∃ part, s'.sim = s.sim.taking (.command part)) := by
  refine ((sim_report _ s).and (keeps_report (J := Hearing) hearing_timed.log _ s h)).bind ?_
  rintro _ s₁ ⟨⟨hsim₁, hmoved₁⟩, h₁⟩
  have hkeeps : Keeps Hearing (write (Command.frame index argument) : ChannelM (Faulty H) C Unit) :=
    keeps_write hearing_timed.toSteady (sayable_any _)
  refine ((sim_write _ s₁).and (hkeeps s₁ h₁)).bind ?_
  rintro _ s₂ ⟨⟨⟨heard, hheard, hsim₂⟩, hmoved₂⟩, h₂⟩
  rw [hsim₁] at hsim₂
  rw [if_neg hplain]
  refine (hearing_awaitResponse responsePolls h₂).mono ?_
  rintro r1 s₃ ⟨hpoll, hmoved₃⟩
  refine ⟨(moved_repaired (hmoved₁.trans hmoved₂) h₂).trans hmoved₃, ?_⟩
  rcases SimCard.receiveMany_fragment hselected hphase hheard with rfl | ⟨part, hpart⟩
  · rw [SimCard.receiveMany_frame hselected hphase hstart] at hsim₂
    rw [hsim₂] at hpoll
    exact .inl hpoll
  · have hsim₂ : s₂.sim = s.sim.taking (.command part) := by
      rw [hsim₂, hpart]
      rfl
    have hmute : (s.sim.taking (.command part)).Silent :=
      ⟨hsilent.out, hsilent.busy, hsilent.stream⟩
    rw [hsim₂, SimCard.poll_of_silent hmute.out hmute.busy hmute.stream] at hpoll
    obtain ⟨hr1, hsim₃⟩ := Prod.mk.inj hpoll
    exact .inr ⟨hr1, part, hsim₃⟩

/-- **A command in brackets of its own,** on a board that fails no read: a card that listens executes it
    and answers; or no answer comes, and nothing became of the card but that it is less busy. -/
theorem hearing_sendPlain (patience : Nat) {index : UInt8}
    (hplain : index ≠ Command.stopTransmission.index)
    (hstart : (0x40 ||| index) &&& 0xC0 = 0x40) (argument : UInt32) (h : Hearing s)
    (hline : s.device.line ≠ none) (hsettled : Settled s) :
    Ensures (sendPlain patience index argument) s fun r1 s' =>
      Served s.repaired s'.repaired ∧ Hearing s' ∧ Settled s' ∧
        ((r1, s'.sim) =
            (s.sim.rested.listening.accept (Command.frame index argument)).core.poll responsePolls ∨
          r1 = idleByte ∧ ∃ busy, s'.sim.rested = s.sim.rested.waiting busy ∧
            (s.sim.busy = .bytes 0 → busy = .bytes 0)) := by
  unfold sendPlain
  rw [if_neg hplain]
  refine ((sim_shutdown hsettled).and (hearing_invariant.ensures_shutdown h)).bind ?_
  rintro _ s₁ ⟨⟨hsim₁, -, -, hserved₁⟩, h₁, -⟩
  have hrested : s₁.sim.rested = s₁.sim := by rw [hsim₁]; rfl
  rw [← hserved₁.line] at hline
  refine (hearing_selectCard patience h₁ hline hrested).bind ?_
  rintro ready s₂ ⟨hserved₂, h₂, howns₂, hready, hlate⟩
  have hserved₂ : Served s.repaired s₂.repaired := (served_repaired hserved₁ h₁).trans hserved₂
  cases ready with
  | true =>
    have hsim₂ := hready rfl
    rw [hsim₁] at hsim₂
    have hselected₂ : s₂.sim.selected = true := by rw [hsim₂]; rfl
    have hphase₂ : s₂.sim.phase = .command [] := by rw [hsim₂]; rfl
    have hsilent₂ : s₂.sim.Silent := by rw [hsim₂]; exact ⟨rfl, rfl, rfl⟩
    refine (hearing_exchangeFrame hplain hstart argument h₂ hselected₂ hphase₂ hsilent₂).mono ?_
    rintro r1 s₃ ⟨hmoved₃, hanswer⟩
    have howns₃ : s₃.device.owns = true := Eq.trans hmoved₃.owns howns₂
    refine ⟨hserved₂.trans hmoved₃.served, hmoved₃.clean h₂, settled_of_owns howns₃, ?_⟩
    rw [hsim₂] at hanswer
    rcases hanswer with hpoll | ⟨hr1, part, hsim₃⟩
    · exact .inl hpoll
    · -- what a lost frame has left in the card is gone when the card is at rest
      refine .inr ⟨hr1, .bytes 0, ?_, fun _ => rfl⟩
      rw [hsim₃]
      rfl
  | false =>
    obtain ⟨done, hsim₂⟩ := hlate rfl
    rw [hsim₁] at hsim₂
    have hrested₂ : s₂.sim.rested = s₂.sim := by rw [hsim₂]; rfl
    refine ensures_pure ⟨hserved₂, h₂, fun _ => hrested₂, .inr ⟨rfl, _, hrested₂.trans hsim₂, ?_⟩⟩
    intro hfree
    show s.sim.busy.less done = .bytes 0
    rw [hfree]
    exact congrArg Busy.bytes (Nat.zero_sub done)

omit [TickSource C] in
/-- A card that is there, answers soon enough and is not busy, on a board that fails no read. -/
structure Attentive (s : Session (Channel (Faulty H)) C) : Prop where
  hearing : Hearing s
  bound : s.device.line ≠ none
  settled : Settled s
  present : s.sim.knobs.present = true
  gap : s.sim.knobs.responseGap < responsePolls
  free : s.sim.busy = .bytes 0

omit [TickSource C] in
/-- What a command leaves of the card, whether or not it was heard. -/
structure Tried (s s' : Session (Channel (Faulty H)) C) : Prop where
  attentive : Attentive s'
  media : s'.sim.media = s.sim.media

omit [TickSource C] in
theorem Attentive.refl (h : Attentive s) : Tried s s :=
  ⟨h, rfl⟩

omit [TickSource C] in
theorem Tried.trans {s'' : Session (Channel (Faulty H)) C} (h : Tried s s') (h' : Tried s' s'') :
    Tried s s'' :=
  ⟨h'.attentive, h'.media.trans h.media⟩

theorem Attentive.served (h : Attentive s) (hserved : Served s.repaired s'.repaired)
    (hhearing : Hearing s') (hsettled : Settled s') (hmedia : s'.sim.media = s.sim.media)
    (hfree : s'.sim.busy = .bytes 0) : Attentive s' where
  hearing := hhearing
  bound := by
    have hline : s'.device.line = s.device.line := hserved.line
    rw [hline]
    exact h.bound
  settled := hsettled
  present := by rw [SimCard.knobs_of_media hmedia]; exact h.present
  gap := by rw [SimCard.knobs_of_media hmedia]; exact h.gap
  free := hfree

/-- **Every command** leaves an attentive card attentive, and what it is made of alone. -/
theorem Attentive.tries (h : Attentive s) (patience : Nat) {index : UInt8}
    (hindex : Command.Plain index) (argument : UInt32) :
    Ensures (sendPlain patience index argument) s fun _ s' => Tried s s' := by
  refine (hearing_sendPlain patience hindex.1 hindex.2.1 argument h.hearing h.bound h.settled).mono ?_
  rintro status s' ⟨hserved, hhearing, hsettled, hpoll | ⟨-, busy, hrested, hbusy⟩⟩
  · let card := (s.sim.rested.listening.accept (Command.frame index argument)).core
    obtain ⟨hmedia, -, hfree⟩ := s.sim.rested.listening.accept_kept (Command.frame index argument)
    have hfree : card.busy = .bytes 0 := hfree
    have hmedia : card.media = s.sim.media := hmedia
    obtain ⟨hmedia', hfree'⟩ := SimCard.poll_kept responsePolls hfree
    have hsim : s'.sim = (card.poll responsePolls).2 := (Prod.mk.inj hpoll).2
    rw [← hsim] at hmedia' hfree'
    rw [hmedia] at hmedia'
    exact ⟨h.served hserved hhearing hsettled hmedia' hfree', hmedia'⟩
  · have hmedia : s'.sim.media = s.sim.media := by
      show s'.sim.rested.media = s.sim.rested.media
      rw [hrested]
      rfl
    have hfree : s'.sim.busy = .bytes 0 := by
      show s'.sim.rested.busy = .bytes 0
      rw [hrested]
      exact hbusy h.free
    exact ⟨h.served hserved hhearing hsettled hmedia hfree, hmedia⟩

/-- **Asking** a card that answers what it hears: the answer comes with what is to follow it, or the
    command was lost. -/
theorem Attentive.ask (h : Attentive s) (patience : Nat) {index : UInt8}
    (hindex : Command.Plain index) (argument : UInt32) {card : SimCard} {r1 : UInt8}
    {rest : List UInt8} (hanswer : R1.isAnswer r1 = true)
    (hexecute : (s.sim.asked.execute index argument s.sim.appPending).core = card.answer r1 rest) :
    Ensures (sendPlain patience index argument) s fun status s' =>
      Tried s s' ∧ (status = r1 ∧ s'.sim = card.saying rest ∨ status = idleByte) := by
  obtain ⟨hplain, hstart, hmask⟩ := hindex
  obtain ⟨hmedia, hselected, -⟩ := SimCard.answer_kept hexecute
  have hgap : card.knobs.responseGap < responsePolls := by
    rw [SimCard.knobs_of_media hmedia]
    exact h.gap
  refine ((h.tries patience ⟨hplain, hstart, hmask⟩ argument).and
    (hearing_sendPlain patience hplain hstart argument h.hearing h.bound h.settled)).mono ?_
  rintro status s' ⟨htried, -, -, -, hpoll | ⟨hstatus, -⟩⟩
  · rw [SimCard.core_accept_asked h.present hmask, hexecute,
      SimCard.poll_answer hselected hgap hanswer] at hpoll
    obtain ⟨hstatus, hsim⟩ := Prod.mk.inj hpoll
    exact ⟨htried, .inl ⟨hstatus, hsim⟩⟩
  · exact ⟨htried, .inr hstatus⟩

end ChannelM

end SpiDisk
