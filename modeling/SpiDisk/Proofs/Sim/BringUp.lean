import SpiDisk.Proofs.Card.Return
import SpiDisk.Proofs.Sim.Identification

/-!
# `SpiDisk.Proofs.Sim.BringUp` — bringing up cards and disks on a clean board

Binding to a line moves no byte to a card, and identification writes nothing. So a card or disk that
was brought up knows its card as it was before, and the card is at rest behind its gap, ready for
transfers at full speed.

## Contents
- **Binding.** `clean_bindTo`.
- **Cards.** `Card.BroughtUp` and `Card.clean_bringUp`.
- **Disks.** `Disk.clean_bringUp`.
-/

namespace SpiDisk

namespace ChannelM

open SessionM CardEngine

variable {H C : Type} [CardBoard H] [TickSource C] {s s' : Session (Channel H) C}

/-! ## Binding -/

theorem Identified.of_media {card other : SimCard} {info : CardInfo} (h : Identified card info)
    (hmedia : card.media = other.media) : Identified other info where
  family := by rw [h.family, SimCard.kind_of_media hmedia]
  cid := by rw [h.cid, SimCard.cid_of_media hmedia]
  csd := by rw [h.csd, SimCard.csd_of_media hmedia]
  size := h.size
  block := h.block

/-- Binding moves no byte to a card, and the channel does not own the bus behind it. -/
theorem clean_bindTo (id : UInt8) (h : s.Clean) :
    Ensures (bindTo id) s fun result s' => result = .ok () →
      s'.Clean ∧ s'.sim.media = s.sim.media ∧ s'.env.clock = s.env.clock ∧
        s'.device.owns = false := by
  have hshutdown : Ensures shutdown s fun _ s' => s'.Clean ∧ s'.sim.media = s.sim.media ∧
      s'.env.clock = s.env.clock ∧ s'.device.owns = false := by
    refine ensures_shutdown (fun haway => ⟨h, rfl, rfl, haway⟩) fun howns => ?_
    refine (sim_deselect s).mono fun _ s₁ ⟨hsim, hmoved⟩ => ⟨hmoved.owns.trans howns, ?_⟩
    have hmedia : s₁.sim.media = s.sim.media := by
      rw [hsim]
      rfl
    exact ⟨hmoved.clean h, hmedia, hmoved.clock, rfl⟩
  unfold bindTo
  cases Line.ofByte id with
  | error refusal => exact ensures_pure nofun
  | ok line =>
    refine hshutdown.bind fun _ s₁ h₁ => ?_
    refine (keeps_rebind (J := fun s' => s'.Clean ∧ s'.sim.media = s.sim.media ∧
      s'.env.clock = s.env.clock ∧ s'.device.owns = false) (fun _ _ h => h) line s₁ h₁).bind ?_
    rintro (refusal | _) s₂ h₂
    · exact ensures_pure nofun
    · exact ensures_bind (ensures_onDevice (ensures_bind (ensures_report (ensures_pure
        fun _ => h₂))))

omit [CardBoard H] in
/-- An identification that comes back found the bus free. -/
theorem free_identify [Host H] (patience : Nat) {s : Session (Channel H) C}
    (haway : s.device.owns = false) :
    Ensures (identify patience).run s fun _ _ => s.env.bus.held = false := by
  have hobtain : Ensures obtain s fun _ _ => s.env.bus.held = false := by
    refine ensures_obtain (fun howns => ?_) fun _ hfree => hfree
    rw [haway] at howns
    cases howns
  have hreset : Ensures (resetCard patience) s fun _ _ => s.env.bus.held = false :=
    (hobtain.bind fun _ _ hfree => ensures_any fun _ _ => hfree).bind
      fun _ _ hfree => ensures_any fun _ _ => hfree
  refine ensures_course_bind (ensures_attempt (hreset.mono ?_))
  rintro (error | _) s' hfree
  · exact hfree
  · exact ensures_any fun _ _ => hfree

end ChannelM

/-! ## Cards and disks -/

namespace Card

open SessionM ChannelM

variable {H C : Type} [CardBoard H] [TickSource C]

omit [TickSource C] in
/-- A device whose card was found out as it is, and is at rest. -/
structure BroughtUp (card : SimCard) (s : Session (Card H) C) : Prop where
  identified : Identified card s.device.info
  answering : Answering (s.at Card.channel)
  away : s.device.channel.owns = false
  fast : s.device.channel.speed = .fast
  free : (s.at Card.channel).sim.busy = .bytes 0
  ready : (s.at Card.channel).sim.idle = false
  media : (s.at Card.channel).sim.media = card.media

/-- **Bringing up** a card that echoes the interface condition: a success means that the card was
    found out as it is. -/
theorem clean_bringUp (patience : Nat) {s : Session (Card H) C} (h : (s.at Card.channel).Clean)
    (hecho : (s.at Card.channel).sim.knobs.echo = ifCondPattern) :
    Ensures (bringUp patience) s fun result s' => result = .ok () →
      BroughtUp (s.at Card.channel).sim s' ∧
        ∃ readings, s'.env.clock = ticked readings s.env.clock := by
  refine ensures_bind (ensures_forget ?_)
  have hspeed : Ensures (ChannelM.setSpeed .slow) (s.at Card.channel) fun _ s₁ =>
      s₁.Clean ∧ s₁.sim = (s.at Card.channel).sim ∧ s₁.env.clock = s.env.clock :=
    ensures_onDevice ⟨h, rfl, rfl⟩
  refine Ensures.bind (ensures_onChannel hspeed) fun _ s₁ ⟨hclean₁, hsim₁, hclock₁⟩ => ?_
  have hecho₁ : (s₁.at Card.channel).sim.knobs.echo = ifCondPattern := by
    rw [hsim₁]
    exact hecho
  refine (ensures_onChannel (clean_identify patience hclean₁ hecho₁)).bind fun outcome s₂ h₂ => ?_
  cases outcome with
  | error error =>
    exact ensures_bind (ensures_any fun _ _ => ensures_bind (ensures_any fun _ _ =>
      ensures_pure nofun))
  | ok info =>
    obtain ⟨hidentified, hprompt, hready, hmedia, hserved⟩ := h₂ info rfl
    rw [hsim₁] at hidentified hmedia
    refine (ensures_onChannel (sim_shutdown hprompt.settled)).bind
      fun _ s₃ ⟨hsim₃, haway, hclock₃, hserved₃⟩ => ?_
    -- shutting down puts the card at rest, and leaves it otherwise as it was identified
    have hanswering : Answering (s₃.at Card.channel) := by
      refine hprompt.toAnswering.served hserved₃ ?_ ?_
      · rw [hsim₃]
        rfl
      · intro _
        rw [hsim₃]
        rfl
    refine ensures_bind (ensures_onDevice ?_)
    refine ensures_bind (ensures_within (ensures_onDevice ?_))
    refine ensures_bind (ensures_report (ensures_pure fun _ => ⟨⟨hidentified, ?_, haway, rfl, ?_, ?_,
      ?_⟩, ?_⟩))
    · exact ⟨hanswering.clean, hanswering.bound, hanswering.settled, hanswering.present,
        hanswering.gap⟩
    · show (s₃.at Card.channel).sim.busy = .bytes 0
      rw [hsim₃]
      exact hprompt.free
    · show (s₃.at Card.channel).sim.idle = false
      rw [hsim₃]
      exact hready
    · show (s₃.at Card.channel).sim.media = (s.at Card.channel).sim.media
      rw [hsim₃, ← hmedia]
      rfl
    · obtain ⟨readings, hclock⟩ := hserved.clock
      refine ⟨readings, ?_⟩
      show s₃.env.clock = _
      rw [← hclock₁]
      exact hclock₃.trans hclock

omit [CardBoard H] in
/-- Bringing up a card comes back only if the channel has no rival. -/
theorem alone_bringUp [Host H] (patience : Nat) {s : Session (Card H) C}
    (haway : s.device.channel.owns = false) :
    Ensures (bringUp patience) s fun _ s' => Alone (s'.at Card.channel) := by
  have hfree : Ensures (bringUp patience) s fun _ _ => s.env.bus.held = false := by
    refine ensures_bind (ensures_forget ?_)
    refine Ensures.bind (ensures_onChannel (Q := fun _ s₁ => s₁.device.owns = false ∧
      s₁.env.bus = s.env.bus) (ensures_onDevice ⟨haway, rfl⟩)) fun _ s₁ ⟨haway₁, hbus₁⟩ => ?_
    refine (ensures_onChannel (free_identify patience haway₁)).bind fun _ _ hfree => ?_
    rw [hbus₁] at hfree
    exact ensures_any fun _ _ => hfree
  intro result s' hrun
  have halone : Alone (s.at Card.channel) := (hfree result s' hrun).trans haway.symm
  have hbringUp := throughout_bringUp alone_invariant.toBusInvariant alone_invariant.speed patience halone
  exact (hbringUp.back result s' hrun).1

end Card

namespace Disk

open SessionM ChannelM

variable {H C : Type} [CardBoard H] [TickSource C]

/-- **Bringing up** a disk: a success means that its card was found out as it is, and that the
    channel has no rival. -/
theorem clean_bringUp (patience : Nat) {s : Session (Disk H) C} (h : (s.at channel).Clean)
    (hecho : (s.at channel).sim.knobs.echo = ifCondPattern) :
    Ensures (bringUp patience) s fun up s' => up = true →
      Card.BroughtUp (s.at channel).sim (s'.at Disk.card) ∧ Alone (s'.at channel) ∧
        ∃ readings, s'.env.clock = ticked readings s.env.clock := by
  refine ensures_bind (ensures_device ?_)
  split
  · exact ensures_bind (ensures_any fun _ _ => ensures_pure nofun)
  refine ensures_bind (ensures_onDevice ?_)
  refine ensures_bind (ensures_within (Card.ensures_forget ?_))
  refine Ensures.bind (ensures_onCard (Card.ensures_onChannel (clean_bindTo _ h))) ?_
  rintro (error | _) s₁ hbound
  · exact ensures_bind (ensures_any fun _ _ => ensures_pure nofun)
  obtain ⟨hclean₁, hmedia₁, hclock₁, haway₁⟩ := hbound rfl
  have hmedia₁ : (s₁.at channel).sim.media = (s.at channel).sim.media := hmedia₁
  have hclock₁ : s₁.env.clock = s.env.clock := hclock₁
  have hecho₁ : (s₁.at channel).sim.knobs.echo = ifCondPattern := by
    rw [SimCard.knobs_of_media hmedia₁]
    exact hecho
  refine (ensures_onCard ((Card.clean_bringUp patience hclean₁ hecho₁).and
    (Card.alone_bringUp patience haway₁))).bind ?_
  rintro (error | _) s₂ ⟨hup, halone⟩
  · exact ensures_bind (ensures_any fun _ _ => ensures_pure nofun)
  obtain ⟨hup, readings, hclock⟩ := hup rfl
  refine ensures_bind (ensures_device ?_)
  refine ensures_bind (ensures_onDevice ?_)
  refine ensures_bind (ensures_report (ensures_pure fun _ => ⟨⟨?_, ?_, hup.away, hup.fast, hup.free,
    hup.ready, hup.media.trans hmedia₁⟩, halone, readings, ?_⟩))
  · exact hup.identified.of_media hmedia₁
  · exact ⟨hup.answering.clean, hup.answering.bound, hup.answering.settled, hup.answering.present,
      hup.answering.gap⟩
  · show s₂.env.clock = _
    rw [← hclock₁]
    exact hclock

end Disk

end SpiDisk
