import SpiDisk.Bench.Faulty
import SpiDisk.Proofs.Bus.Calls
import SpiDisk.Proofs.Sim.Card

/-!
# `SpiDisk.Proofs.Sim.Board` — boards whose only device is a simulated card

Such a board may fail any call. A read that fails has still moved bytes in the card, and a write that
fails has not reached it; pauses and lines always work. A board is clean while it has no failure in
store, and on a clean board the operations of a channel do to the card what their names say.

## Contents
- **Boards.** `CardBoard`, with the bare card and the faulty board as instances.
- **Frames.** `sim`, the card of a session; `Moved`, what moving bytes leaves alone, and `Served`,
  what a command does.
- **Bytes.** What `read`, `write`, `select` and `deselect` do to the card; `seen`, what is told of a
  byte that was read.
-/

namespace SpiDisk

/-- A board whose only device is a simulated card. -/
class CardBoard (H : Type) extends Host H where
  card : H → SimCard
  /-- Whether no failure is in store. -/
  Clean : H → Prop
  read_card : ∀ board count,
    (ByteBus.read board count).1 = ((card board).transmitMany count).1 ∧
      card (ByteBus.read board count).2.2 = ((card board).transmitMany count).2
  write_card : ∀ board bytes,
    (ByteBus.write board bytes).1 = none ∧
        card (ByteBus.write board bytes).2 = (card board).receiveMany bytes ∨
      (ByteBus.write board bytes).1 ≠ none ∧ card (ByteBus.write board bytes).2 = card board
  flush_card : ∀ board, card (ByteBus.flush board).2 = card board
  drive_card : ∀ board mask, card (ChipSelect.drive board mask).2 = (card board).select mask
  pause_card : ∀ board us, card (Pacer.pauseMicros board us) = (card board).pause
  read_clean : ∀ board count, Clean board →
    (ByteBus.read board count).2.1 = none ∧ Clean (ByteBus.read board count).2.2
  write_clean : ∀ board bytes, Clean board →
    (ByteBus.write board bytes).1 = none ∧ Clean (ByteBus.write board bytes).2
  flush_clean : ∀ board, Clean board → Clean (ByteBus.flush board).2
  drive_clean : ∀ board mask, Clean board → Clean (ChipSelect.drive board mask).2
  pause_clean : ∀ board us, Clean board → Clean (Pacer.pauseMicros board us)

/-- A card by itself never fails. -/
instance : CardBoard SimCard where
  card card := card
  Clean _ := True
  read_card _ _ := ⟨rfl, rfl⟩
  write_card _ _ := .inl ⟨rfl, rfl⟩
  flush_card _ := rfl
  drive_card _ _ := rfl
  pause_card _ _ := rfl
  read_clean _ _ _ := ⟨rfl, trivial⟩
  write_clean _ _ _ := ⟨rfl, trivial⟩
  flush_clean _ _ := trivial
  drive_clean _ _ _ := trivial
  pause_clean _ _ _ := trivial

/-- A faulty board is clean if its schedule names no call. -/
instance {H : Type} [CardBoard H] : CardBoard (Faulty H) where
  card board := CardBoard.card board.inner
  Clean board := CardBoard.Clean board.inner ∧
    ∀ n, board.schedule.read n = false ∧ board.schedule.write n = false
  read_card board count := CardBoard.read_card board.inner count
  write_card board bytes := by
    cases h : board.schedule.write board.writes with
    | true => exact .inr (by simp [ByteBus.write, h])
    | false =>
      have hinner := CardBoard.write_card board.inner bytes
      simpa [ByteBus.write, h] using hinner
  flush_card board := by
    cases h : board.schedule.flush board.flushes with
    | true => simp [ByteBus.flush, h]
    | false =>
      have hinner := CardBoard.flush_card board.inner
      simpa [ByteBus.flush, h] using hinner
  drive_card board mask := CardBoard.drive_card board.inner mask
  pause_card board us := CardBoard.pause_card board.inner us
  read_clean board count hclean := by
    obtain ⟨hnone, hinner⟩ := CardBoard.read_clean board.inner count hclean.1
    have hread := (hclean.2 board.reads).1
    exact ⟨by simpa [ByteBus.read, hread] using hnone, hinner, hclean.2⟩
  write_clean board bytes hclean := by
    obtain ⟨hnone, hinner⟩ := CardBoard.write_clean board.inner bytes hclean.1
    have hwrite := (hclean.2 board.writes).2
    simp only [ByteBus.write, hwrite]
    exact ⟨hnone, hinner, hclean.2⟩
  flush_clean board hclean := by
    have hinner := CardBoard.flush_clean board.inner hclean.1
    cases h : board.schedule.flush board.flushes with
    | true =>
      simp only [ByteBus.flush, h]
      exact hclean
    | false =>
      simp only [ByteBus.flush, h]
      exact ⟨hinner, hclean.2⟩
  drive_clean board mask hclean := ⟨CardBoard.drive_clean board.inner mask hclean.1, hclean.2⟩
  pause_clean board us hclean := ⟨CardBoard.pause_clean board.inner us hclean.1, hclean.2⟩

/-! ## Frames -/

section Frames

open SessionM

variable {H C : Type} [CardBoard H] [TickSource C]

omit [TickSource C] in
/-- The card behind a channel, without what it noted. -/
def Session.sim (s : Session (Channel H) C) : SimCard :=
  (CardBoard.card s.device.host).core

omit [TickSource C] in
/-- Whether the board has no failure in store. -/
def Session.Clean (s : Session (Channel H) C) : Prop :=
  CardBoard.Clean s.device.host

/-- Nothing but the board, the history and the log changed, apart from so many readings of the
    clock; and a clean board is still clean. -/
structure Moved (readings : Nat) (s s' : Session (Channel H) C) : Prop where
  line : s'.device.line = s.device.line
  owns : s'.device.owns = s.device.owns
  speed : s'.device.speed = s.device.speed
  bus : s'.env.bus = s.env.bus
  clock : s'.env.clock = ticked readings s.env.clock
  clean : s.Clean → s'.Clean

theorem Moved.refl (s : Session (Channel H) C) : Moved 0 s s :=
  ⟨rfl, rfl, rfl, rfl, rfl, id⟩

theorem Moved.trans {m n : Nat} {s s' s'' : Session (Channel H) C} (h : Moved m s s')
    (h' : Moved n s' s'') : Moved (m + n) s s'' :=
  ⟨h'.line.trans h.line, h'.owns.trans h.owns, h'.speed.trans h.speed, h'.bus.trans h.bus,
    by rw [h'.clock, h.clock, ticked_add], h'.clean ∘ h.clean⟩

/-- One more reading of the clock. -/
theorem Moved.tick {readings : Nat} {s s' : Session (Channel H) C} (h : Moved readings s s') :
    Moved (readings + 1) s { s' with env.clock := (TickSource.now s'.env.clock).2 } :=
  ⟨h.line, h.owns, h.speed, h.bus, by rw [ticked, ← h.clock], h.clean⟩

/-- The line, the speed and the cleanness of the board stay; the clock may have been read. -/
structure Served (s s' : Session (Channel H) C) : Prop where
  line : s'.device.line = s.device.line
  speed : s'.device.speed = s.device.speed
  clock : ∃ readings, s'.env.clock = ticked readings s.env.clock
  clean : s.Clean → s'.Clean

theorem Moved.served {readings : Nat} {s s' : Session (Channel H) C} (h : Moved readings s s') :
    Served s s' :=
  ⟨h.line, h.speed, ⟨readings, h.clock⟩, h.clean⟩

theorem Served.refl (s : Session (Channel H) C) : Served s s :=
  (Moved.refl s).served

theorem Served.trans {s s' s'' : Session (Channel H) C} (h : Served s s') (h' : Served s' s'') :
    Served s s'' := by
  obtain ⟨m, hm⟩ := h.clock
  obtain ⟨n, hn⟩ := h'.clock
  exact ⟨h'.line.trans h.line, h'.speed.trans h.speed, ⟨m + n, by rw [hn, hm, ticked_add]⟩,
    h'.clean ∘ h.clean⟩

omit [TickSource C] in
/-- A channel without the bus has left its card at rest. -/
def Settled (s : Session (Channel H) C) : Prop :=
  s.device.owns = false → s.sim.rested = s.sim

end Frames

/-! ## Bytes -/

/-- What a caller is told of a byte. -/
def seen (byte : UInt8) (fault : Option Fault) : UInt8 :=
  match fault with
  | none => byte
  | some _ => idleByte

/-- A caller that is told of something other than an idle line is told the truth. -/
theorem eq_of_seen {byte told : UInt8} {fault : Option Fault} (h : told = seen byte fault)
    (htold : told ≠ idleByte) : fault = none ∧ told = byte := by
  cases fault with
  | none => exact ⟨rfl, h⟩
  | some _ => exact absurd h htold

theorem visible_singleton (byte : UInt8) (fault : Option Fault) :
    ChannelM.visible [byte] fault = [seen byte fault] := by
  cases fault with
  | none => rfl
  | some _ => rfl

namespace ChannelM

open SessionM

variable {H C : Type} [CardBoard H] [TickSource C]

theorem sim_report {N : Type} [Diagnostic N] (event : N) (s : Session (Channel H) C) :
    Ensures (report event) s fun _ s' => s'.sim = s.sim ∧ Moved 0 s s' :=
  ensures_report ⟨rfl, rfl, rfl, rfl, rfl, rfl, id⟩

/-- A read moves bytes in the card, whether or not its caller is told of them. -/
theorem sim_shiftIn (count : Nat) (s : Session (Channel H) C) :
    Ensures (shiftIn count) s fun bytes s' =>
      bytes = visible (s.sim.transmitMany count).1 (Channel.callRead count s.device).1.2 ∧
        s'.sim = s.sim.after count ∧ Moved 0 s s' := by
  refine (reaches_shiftIn count s).mono ?_
  rintro bytes s' ⟨hbytes, log, rfl⟩
  obtain ⟨hgiven, hcard⟩ := CardBoard.read_card s.device.host count
  have hcore : s.sim.transmitMany count = _ := SimCard.transmitMany_core _ count
  have hread : (Channel.callRead count s.device).1.1 = (s.sim.transmitMany count).1 := by
    rw [hcore]
    exact hgiven
  refine ⟨?_, ?_, rfl, rfl, rfl, rfl, rfl, fun h => ?_⟩
  · rw [hbytes, hread]
  · rw [SimCard.after, hcore]
    exact congrArg SimCard.core hcard
  · exact (CardBoard.read_clean s.device.host count h).2

/-- On a clean board a read hands over what the card gives out. -/
theorem clean_shiftIn (count : Nat) {s : Session (Channel H) C} (h : s.Clean) :
    Ensures (shiftIn count) s fun bytes s' =>
      bytes = (s.sim.transmitMany count).1 ∧ s'.sim = s.sim.after count ∧ Moved 0 s s' := by
  have hnone : (Channel.callRead count s.device).1.2 = none :=
    (CardBoard.read_clean s.device.host count h).1
  have hshift := sim_shiftIn count s
  rw [hnone] at hshift
  exact hshift

/-- A write reaches the card, or it failed and is lost. -/
theorem sim_shiftOut (bytes : List UInt8) (s : Session (Channel H) C) :
    Ensures (shiftOut bytes) s fun _ s' =>
      (s'.sim = (s.sim.receiveMany bytes).core ∨
        (Channel.callWrite bytes s.device).1 ≠ none ∧ s'.sim = s.sim) ∧ Moved 0 s s' := by
  refine (reaches_shiftOut bytes s).mono ?_
  rintro _ s' ⟨log, rfl⟩
  refine ⟨?_, rfl, rfl, rfl, rfl, rfl, fun h => (CardBoard.write_clean _ bytes h).2⟩
  rcases CardBoard.write_card s.device.host bytes with ⟨-, hcard⟩ | ⟨hsome, hcard⟩
  · exact .inl ((congrArg SimCard.core hcard).trans (SimCard.core_receiveMany _ bytes).symm)
  · exact .inr ⟨hsome, congrArg SimCard.core hcard⟩

/-- On a clean board a write reaches the card. -/
theorem clean_shiftOut (bytes : List UInt8) {s : Session (Channel H) C} (h : s.Clean) :
    Ensures (shiftOut bytes) s fun _ s' =>
      s'.sim = (s.sim.receiveMany bytes).core ∧ Moved 0 s s' := by
  refine (sim_shiftOut bytes s).mono ?_
  rintro _ s' ⟨hheard | ⟨hlost, -⟩, hmoved⟩
  · exact ⟨hheard, hmoved⟩
  · exact absurd (CardBoard.write_clean s.device.host bytes h).1 hlost

/-- A pause is all the same to the card. -/
theorem sim_pause (us : UInt32) (s : Session (Channel H) C) :
    Ensures (onDevice (Channel.callPause us)) s fun _ s' => s'.sim = s.sim ∧ Moved 0 s s' := by
  have hcard : (CardBoard.card (Pacer.pauseMicros s.device.host us)).core = s.sim :=
    (congrArg SimCard.core (CardBoard.pause_card s.device.host us)).trans (SimCard.core_pause _)
  exact ensures_onDevice ⟨hcard, rfl, rfl, rfl, rfl, rfl,
    CardBoard.pause_clean s.device.host us⟩

theorem clean_readPaced (count : Nat) {s : Session (Channel H) C} (h : s.Clean) :
    Ensures (readPaced count) s fun bytes s' =>
      bytes = (s.sim.transmitMany count).1 ∧ s'.sim = s.sim.after count ∧ Moved 0 s s' := by
  induction count generalizing s with
  | zero => exact ensures_pure ⟨rfl, rfl, Moved.refl s⟩
  | succ count ih =>
    refine (clean_shiftIn 1 h).bind fun byte s₁ ⟨hbyte, hsim₁, hmoved₁⟩ => ?_
    refine (sim_pause slowPause s₁).bind fun _ s₂ ⟨hsim₂, hmoved₂⟩ => ?_
    refine (ih (hmoved₂.clean (hmoved₁.clean h))).bind fun rest s₃ ⟨hrest, hsim₃, hmoved₃⟩ => ?_
    rw [hsim₂, hsim₁] at hrest hsim₃
    refine ensures_pure ⟨?_, hsim₃, hmoved₁.trans (hmoved₂.trans hmoved₃)⟩
    rw [hbyte, hrest]
    rfl

theorem clean_writePaced (bytes : List UInt8) {s : Session (Channel H) C} (h : s.Clean) :
    Ensures (writePaced bytes) s fun _ s' =>
      s'.sim = (s.sim.receiveMany bytes).core ∧ Moved 0 s s' := by
  induction bytes generalizing s with
  | nil =>
    refine ensures_pure ⟨?_, Moved.refl s⟩
    unfold SimCard.receiveMany
    split
    · rfl
    · rfl
  | cons byte rest ih =>
    refine (clean_shiftOut [byte] h).bind fun _ s₁ ⟨hsim₁, hmoved₁⟩ => ?_
    refine (sim_pause slowPause s₁).bind fun _ s₂ ⟨hsim₂, hmoved₂⟩ => ?_
    refine (ih (hmoved₂.clean (hmoved₁.clean h))).mono fun _ s₃ ⟨hsim₃, hmoved₃⟩ => ?_
    refine ⟨?_, hmoved₁.trans (hmoved₂.trans hmoved₃)⟩
    rw [hsim₃, hsim₂, hsim₁, SimCard.receiveMany_cons s.sim byte rest, SimCard.core_receiveMany]

/-- **Reading,** at any speed: the bytes that the card gives out. -/
theorem clean_read (count : Nat) {s : Session (Channel H) C} (h : s.Clean) :
    Ensures (read count) s fun bytes s' =>
      bytes = (s.sim.transmitMany count).1 ∧ s'.sim = s.sim.after count ∧ Moved 0 s s' := by
  refine ensures_bind (ensures_device ?_)
  cases s.device.speed with
  | fast => exact clean_shiftIn count h
  | slow => exact clean_readPaced count h

theorem clean_readByte {s : Session (Channel H) C} (h : s.Clean) :
    Ensures readByte s fun byte s' =>
      byte = s.sim.next.1 ∧ s'.sim = s.sim.next.2 ∧ Moved 0 s s' := by
  refine (clean_read 1 h).bind fun bytes s₁ ⟨hbytes, hsim, hmoved⟩ => ensures_pure ⟨?_, hsim, hmoved⟩
  rw [hbytes]
  rfl

/-- **Writing,** at any speed: the card takes the bytes in. -/
theorem clean_write (bytes : List UInt8) {s : Session (Channel H) C} (h : s.Clean) :
    Ensures (write bytes) s fun _ s' => s'.sim = (s.sim.receiveMany bytes).core ∧ Moved 0 s s' := by
  refine ensures_bind (ensures_device ?_)
  cases s.device.speed with
  | fast => exact clean_shiftOut bytes h
  | slow => exact clean_writePaced bytes h

/-- **Reading** one byte, at any speed and on any board. -/
theorem sim_readByte (s : Session (Channel H) C) : Ensures readByte s fun byte s' =>
    (∃ fault, byte = seen s.sim.next.1 fault) ∧ s'.sim = s.sim.next.2 ∧ Moved 0 s s' := by
  have hshift : Ensures (shiftIn 1) s fun bytes s' =>
      (∃ fault, bytes = [seen s.sim.next.1 fault]) ∧ s'.sim = s.sim.next.2 ∧ Moved 0 s s' := by
    refine (sim_shiftIn 1 s).mono ?_
    rintro bytes s₁ ⟨hbytes, hsim, hmoved⟩
    exact ⟨⟨_, hbytes.trans (visible_singleton _ _)⟩, hsim, hmoved⟩
  have hread : Ensures (read 1) s fun bytes s' =>
      (∃ fault, bytes = [seen s.sim.next.1 fault]) ∧ s'.sim = s.sim.next.2 ∧ Moved 0 s s' := by
    refine ensures_bind (ensures_device ?_)
    cases s.device.speed with
    | fast => exact hshift
    | slow =>
      refine hshift.bind ?_
      rintro bytes s₁ ⟨hbytes, hsim₁, hmoved₁⟩
      refine (sim_pause slowPause s₁).bind ?_
      rintro _ s₂ ⟨hsim₂, hmoved₂⟩
      refine ensures_bind (ensures_pure (ensures_pure ⟨?_, hsim₂.trans hsim₁, hmoved₁.trans hmoved₂⟩))
      rwa [List.append_nil]
  refine hread.bind ?_
  rintro bytes s₁ ⟨⟨fault, rfl⟩, hsim, hmoved⟩
  exact ensures_pure ⟨⟨fault, rfl⟩, hsim, hmoved⟩

omit [TickSource C] in
theorem sim_unheard (s : Session (Channel H) C) : s.sim = (s.sim.receiveMany []).core := by
  rw [SimCard.receiveMany_nil]
  rfl

/-- Bytes that go out one by one are lost one by one. -/
theorem sim_writePaced (bytes : List UInt8) (s : Session (Channel H) C) :
    Ensures (writePaced bytes) s fun _ s' =>
      (∃ heard : List UInt8, heard.Sublist bytes ∧ s'.sim = (s.sim.receiveMany heard).core) ∧
        Moved 0 s s' := by
  induction bytes generalizing s with
  | nil => exact ensures_pure ⟨⟨[], List.Sublist.refl [], sim_unheard s⟩, Moved.refl s⟩
  | cons byte rest ih =>
    refine (sim_shiftOut [byte] s).bind ?_
    rintro _ s₁ ⟨hfirst, hmoved₁⟩
    refine (sim_pause slowPause s₁).bind ?_
    rintro _ s₂ ⟨hsim₂, hmoved₂⟩
    refine (ih s₂).mono ?_
    rintro _ s₃ ⟨⟨heard, hheard, hsim₃⟩, hmoved₃⟩
    rw [hsim₂] at hsim₃
    refine ⟨?_, hmoved₁.trans (hmoved₂.trans hmoved₃)⟩
    rcases hfirst with hsim₁ | ⟨-, hsim₁⟩
    · refine ⟨byte :: heard, hheard.cons_cons byte, ?_⟩
      rw [hsim₃, hsim₁, SimCard.core_receiveMany, ← SimCard.receiveMany_cons]
    · refine ⟨heard, hheard.cons byte, ?_⟩
      rw [hsim₃, hsim₁]

/-- **A write,** at any speed and on any board: the card hears some of its bytes, in their order. -/
theorem sim_write (bytes : List UInt8) (s : Session (Channel H) C) :
    Ensures (write bytes) s fun _ s' =>
      (∃ heard : List UInt8, heard.Sublist bytes ∧ s'.sim = (s.sim.receiveMany heard).core) ∧
        Moved 0 s s' := by
  refine ensures_bind (ensures_device ?_)
  cases s.device.speed with
  | fast =>
    refine (sim_shiftOut bytes s).mono ?_
    rintro _ s₁ ⟨hsim₁ | ⟨-, hsim₁⟩, hmoved₁⟩
    · exact ⟨⟨bytes, List.Sublist.refl bytes, hsim₁⟩, hmoved₁⟩
    · exact ⟨⟨[], List.nil_sublist bytes, hsim₁.trans (sim_unheard s)⟩, hmoved₁⟩
  | slow => exact sim_writePaced bytes s

/-! ## Lines -/

theorem sim_drive (mask : UInt8) (s : Session (Channel H) C) :
    Ensures (drive mask) s fun _ s' =>
      s'.sim = ((CardBoard.card s.device.host).select mask).core ∧ Moved 0 s s' := by
  refine (reaches_drive mask s).mono ?_
  rintro _ s' ⟨log, rfl⟩
  exact ⟨congrArg SimCard.core (CardBoard.drive_card s.device.host mask), rfl, rfl, rfl, rfl, rfl,
    CardBoard.drive_clean s.device.host mask⟩

/-- Selecting wakes the card, if the channel is bound to a line. -/
theorem sim_select {s : Session (Channel H) C} (hline : s.device.line ≠ none) :
    Ensures select s fun _ s' => s'.sim = { s.sim with selected := true } ∧ Moved 0 s s' := by
  refine ensures_bind (ensures_device ((sim_drive _ s).mono fun _ s' ⟨hsim, hmoved⟩ => ?_))
  have hmask : s.device.mask ≠ 0 := by
    unfold Channel.mask
    cases hbound : s.device.line with
    | none => exact absurd hbound hline
    | some line => cases line <;> decide
  exact ⟨hsim.trans (SimCard.core_select hmask _), hmoved⟩

/-- A channel without a line selects nothing. -/
theorem sim_select_unbound {s : Session (Channel H) C} (hline : s.device.line = none) :
    Ensures select s fun _ s' => s'.sim = s.sim.rested ∧ Moved 0 s s' := by
  refine ensures_bind (ensures_device ((sim_drive _ s).mono fun _ s' ⟨hsim, hmoved⟩ => ?_))
  have hmask : s.device.mask = 0 := by rw [Channel.mask, hline]
  rw [hmask] at hsim
  exact ⟨hsim, hmoved⟩

/-- **De-selecting** ends every transaction, on a board that fails as well as on a clean one: lines
    always work, and a card that is not selected does not hear the idle byte. -/
theorem sim_deselect (s : Session (Channel H) C) :
    Ensures deselect s fun _ s' => s'.sim = s.sim.rested ∧ Moved 0 s s' := by
  refine (reaches_deselect s).mono ?_
  rintro _ s' ⟨log, rfl⟩
  obtain ⟨hline, howns, hspeed⟩ := s.device.parted_kept
  have hflush := CardBoard.flush_card s.device.host
  have hdrive := CardBoard.drive_card (ByteBus.flush s.device.host).2 0
  have hunheard : ((CardBoard.card s.device.host).select 0).selected = false := rfl
  -- the board after the lines were driven, and after the idle byte was written to it
  let driven := (ChipSelect.drive (ByteBus.flush s.device.host).2 0).2
  have hwrite : CardBoard.card (ByteBus.write driven [idleByte]).2 = CardBoard.card driven := by
    rcases CardBoard.write_card driven [idleByte] with ⟨-, hcard⟩ | ⟨-, hcard⟩
    · rw [hcard, hdrive, hflush, SimCard.receiveMany_of_unselected hunheard]
    · exact hcard
  have hdone : (CardBoard.card (ByteBus.write driven [idleByte]).2).core = s.sim.rested := by
    rw [hwrite, hdrive, hflush]
    rfl
  have hclean : s.Clean → CardBoard.Clean (ByteBus.write driven [idleByte]).2 := fun h =>
    (CardBoard.write_clean _ _ (CardBoard.drive_clean _ _ (CardBoard.flush_clean _ h))).2
  refine ⟨?_, hline, howns, hspeed, rfl, rfl, fun h => ?_⟩
  · rcases (s.device.callFlush.2.callDrive 0).2.host_wroteByte idleByte with hhost | hhost
    · exact (congrArg (fun board => (CardBoard.card board).core) hhost).trans hdone
    · refine (congrArg (fun board => (CardBoard.card board).core) hhost).trans (Eq.trans ?_ hdone)
      exact (congrArg SimCard.core (CardBoard.pause_card _ slowPause)).trans (SimCard.core_pause _)
  · rcases (s.device.callFlush.2.callDrive 0).2.host_wroteByte idleByte with hhost | hhost
    · exact (congrArg CardBoard.Clean hhost).mpr (hclean h)
    · exact (congrArg CardBoard.Clean hhost).mpr (CardBoard.pause_clean _ slowPause (hclean h))

end ChannelM

end SpiDisk
