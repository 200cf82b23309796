import SpiDisk.Proofs.Card.ReadStream
import SpiDisk.Proofs.Disk.Course

/-!
# `SpiDisk.Proofs.Disk.Transfer` — how a unit answers a transfer

The outcome of a transfer is settled before the card is asked, or it is the card's own, but for the kind of
failure. On no way through the engine does a transfer change what is known of the card, the geometry, or how
the channel is set; and a read changes nothing of the buffer behind the sectors that it is for.

## Contents
- **Buffers.** `Card.length_read`: a card never makes the part of a buffer longer or shorter.
- **Settings.** `Kept`, what a transfer leaves as it was.
- **Answers.** `Answered`, for reading and writing alike, and `transfer_answered`.
-/

namespace SpiDisk

open SessionM

variable {H C : Type}

/-! ## Buffers -/

namespace ChannelM

open CardEngine

variable [Host H] [TickSource C]

/-- Whatever comes of a run, the blocks that came in are whole and not too many. -/
theorem room_fetchRun (patience : Nat) (info : CardInfo) (lba : UInt32) (count : Nat)
    (s : Session (Channel H) C) :
    Ensures (fetchRun patience info lba count) s fun received _ =>
      (∀ block ∈ received.1, block.length = sectorSize) ∧ received.1.length ≤ count := by
  unfold fetchRun
  cases info.runAddress lba count with
  | error error => exact ensures_pure ⟨nofun, Nat.zero_le count⟩
  | ok address =>
    refine (passed_readRun address count s).mono ?_
    rintro ⟨blocks, outcome⟩ s' ⟨command, data, readings, -, -, -, hfetched, -⟩
    cases hfetched with
    | refused => exact ⟨nofun, Nat.zero_le count⟩
    | fetched _ receptions heard hreceived =>
      exact ⟨hreceived.length_of_mem_blocksOf, hreceived.length_blocksOf_le⟩

theorem length_readSectors (patience : Nat) (info : CardInfo) (lba : UInt32) (buffer : List UInt8)
    (s : Session (Channel H) C) :
    Ensures (readSectors patience info lba buffer) s fun result _ =>
      result.2.length = buffer.length := by
  unfold readSectors
  dsimp only
  split
  · exact ensures_pure rfl
  split
  · exact ensures_pure rfl
  refine (room_fetchRun patience info lba _ s).bind ?_
  rintro ⟨blocks, outcome⟩ s₁ ⟨hwhole, hroom⟩
  exact ensures_bind (ensures_any fun _ s₂ => ensures_pure (length_overwrite hwhole hroom))

end ChannelM

theorem Card.length_read [Host H] [TickSource C] (patience : Nat) (lba : UInt32)
    (buffer : List UInt8) (s : Session (Card H) C) :
    Ensures (Card.read patience lba buffer) s fun result _ => result.2.length = buffer.length :=
  ensures_bind (ensures_device (ensures_onChannel (ChannelM.length_readSectors patience _ lba buffer _)))

namespace Disk

open ChannelM

variable [Host H] [TickSource C]

/-- What was read is in front of the buffer, and the rest of the buffer is as it was. -/
theorem buffer_of_read (patience : Nat) (lba count : UInt32) (buffer : List UInt8)
    (s : Session (Disk H) C) :
    Ensures (read patience lba count buffer) s fun result _ =>
      result.2.length = buffer.length ∧
        result.2.drop (count.toNat * sectorSize) = buffer.drop (count.toNat * sectorSize) ∧
        (¬ Asked s.device buffer.length count → result.2 = buffer) := by
  obtain ⟨next, hread, hnext⟩ := resumes_read (H := H) (C := C) patience lba count buffer
  rw [hread]
  refine hnext.ensures (fun _ _ _ => ⟨rfl, rfl, fun _ => rfl⟩) ?_
  intro hasked
  refine (ensures_onCard (Card.length_read patience lba _ (s.at Disk.card))).mono ?_
  rintro ⟨outcome, front⟩ s₁ hkept
  have hfront : front.length = count.toNat * sectorSize := hkept.trans hasked.length_take
  refine ⟨?_, ?_, fun hidle => absurd hasked hidle⟩
  · have hfits := hasked.fits
    rw [List.length_append, List.length_drop, hfront]
    omega
  · rw [← hfront, List.drop_left]

/-! ## Settings -/

/-- What a transfer leaves as it was. -/
structure Kept (s s' : Session (Disk H) C) : Prop extends SameUnit s.device s'.device where
  line : s'.device.channel.line = s.device.channel.line
  speed : s'.device.channel.speed = s.device.channel.speed
  attached : s'.env.bus.attached = s.env.bus.attached
  free : s.device.channel.owns = false → s'.device.channel.owns = false

/-- What only uses the channel of a unit, and keeps all that the bus does, keeps its settings. -/
theorem kept_of_invariant {α : Type} {transfer : SessionM (Disk H) C α} {s : Session (Disk H) C}
    (hsame : Ensures transfer s fun _ s' => SameUnit s.device s'.device)
    (hbus : ∀ I : Session (Channel H) C → Prop, BusInvariant anyFrame I → I (s.at channel) →
      Ensures transfer s fun _ s' =>
        I (s'.at channel) ∧ (s.device.channel.owns = false → s'.device.channel.owns = false)) :
    Ensures transfer s fun _ s' => Kept s s' := by
  have hsettings := hbus _ (settings_invariant fun line speed attached =>
    line = s.device.channel.line ∧ speed = s.device.channel.speed ∧
      attached = s.env.bus.attached) ⟨rfl, rfl, rfl⟩
  refine (hsame.and hsettings).mono ?_
  rintro _ s' ⟨hsame, ⟨hline, hspeed, hattached⟩, hfree⟩
  exact ⟨hsame, hline, hspeed, hattached, hfree⟩

/-! ## Answers -/

section Answers

variable {α β : Type} {s : Session (Disk H) C} {available : Nat} {count : UInt32}

/-- How a unit answers a transfer between its card and so many bytes. -/
structure Answered (s : Session (Disk H) C) (available : Nat) (count : UInt32)
    (transfer : SessionM (Disk H) C β) (outcomeOf : β → Except DiskError Unit)
    (card : SessionM (Disk H) C α) (cardOutcome : α → Except CardError Unit) : Prop where
  /-- The outcome is the one that is due, with the card's own success in question. -/
  outcome : Ensures transfer s fun b _ => ∀ outcome, outcomeOf b = outcome ↔
    Due s.device available count (∃ a s₁, card s = some (a, s₁) ∧ cardOutcome a = .ok ()) outcome
  kept : Ensures transfer s fun _ s' => Kept s s'
  /-- If the card is asked, nothing else is waited for. -/
  returns : Asked s.device available count → (Returns transfer s ↔ Returns card s)
  /-- If it is not, no call on the board is made: nothing but the log changes. -/
  idle : ¬ Asked s.device available count →
    ∃ b log, transfer s = some (b, { s with env.log := log })

variable {next : Except DiskError Nat → SessionM (Disk H) C β} {card : SessionM (Disk H) C α}
  {reply : Except DiskError Unit → β} {answer : α → β} {note : α → Logger → Logger}

omit [Host H] [TickSource C] in
theorem Resumes.answered
    (hnext : Resumes next (count.toNat * sectorSize) card reply answer note)
    {outcomeOf : β → Except DiskError Unit} {cardOutcome : α → Except CardError Unit}
    (hreply : ∀ outcome, outcomeOf (reply outcome) = outcome)
    (hanswer : ∀ a, outcomeOf (answer a) = (cardOutcome a).mapError fun _ => .aborted)
    (hkept : Ensures (transferLength available count >>= next) s fun _ s' => Kept s s') :
    Answered s available count (transferLength available count >>= next) outcomeOf card
      cardOutcome where
  outcome := by
    refine hnext.ensures ?_ ?_
    · intro outcome log hdue
      rw [hreply]
      exact (hdue _).iff
    · intro hasked a s₁ hcard
      -- the card has one outcome, so that its success is that of the run at hand
      have hmoved : (∃ a s₁, card s = some (a, s₁) ∧ cardOutcome a = .ok ()) ↔
          cardOutcome a = .ok () := by
        rw [hcard]
        simp
      rw [hanswer]
      exact (hasked.due hmoved).iff
  kept := hkept
  returns h := hnext.returns_iff h
  idle h := by
    obtain ⟨outcome, log, -, hidle⟩ := hnext.unasked h
    exact ⟨_, log, hidle⟩

end Answers

/-- **How a unit answers.** Over any board and with any clock, a transfer fails with `openFail` if and only
    if there is no card, and with `badLength` if and only if there is one and the sectors are more than the
    buffer has room for; one of no sectors succeeds. In these cases nothing changes but the log. Every other
    transfer is one of the card, of just these sectors. It comes back if and only if that does, succeeds if
    and only if that does, and fails with `aborted` if not. Behind the sectors the buffer is as it was; and
    so is, come what may, what is known of the card, the geometry, the line of the channel and its speed. -/
theorem transfer_answered (patience : Nat) (lba count : UInt32) (buffer : List UInt8)
    (s : Session (Disk H) C) :
    let length := count.toNat * sectorSize
    let part := buffer.take length
    Answered s buffer.length count (read patience lba count buffer) Prod.fst
        (onCard (Card.read patience lba part)) Prod.fst ∧
      Answered s buffer.length count (write patience lba count buffer) id
        (onCard (Card.write patience lba part)) id ∧
      (Asked s.device buffer.length count → part.length = length) ∧
      Ensures (read patience lba count buffer) s fun result _ =>
        result.2.length = buffer.length ∧ result.2.drop length = buffer.drop length ∧
          (¬ Asked s.device buffer.length count → result.2 = buffer) := by
  intro length part
  refine ⟨?_, ?_, Asked.length_take, buffer_of_read patience lba count buffer s⟩
  · obtain ⟨next, hread, hnext⟩ := resumes_read (H := H) (C := C) patience lba count buffer
    have hkept := kept_of_invariant (same_read patience lba count buffer s)
      fun _ hI h => (throughout_read hI patience lba count buffer h).back
    rw [hread] at hkept ⊢
    exact hnext.answered (fun _ => rfl) (fun _ => rfl) hkept
  · obtain ⟨next, hwrite, hnext⟩ := resumes_write (H := H) (C := C) patience lba count buffer
    have hkept := kept_of_invariant (same_write patience lba count buffer s)
      fun _ hI h => (throughout_write hI patience lba count buffer h).back
    rw [hwrite] at hkept ⊢
    exact hnext.answered (fun _ => rfl) (fun _ => rfl) hkept

end Disk

end SpiDisk
