import SpiDisk.Proofs.Card.Address
import SpiDisk.Proofs.Sim.Sectors

/-!
# `SpiDisk.Proofs.Sim.Transfers` — buffers filled from a simulated card and stored on it

A transfer finds the command argument for its run, moves the run, and gives the bus back. On a card
that serves it is refused exactly if the run does not lie on the card, and the card means the same
sector by an argument as the engine does.

## Contents
- **Addresses.** `sectorOf_argument`.
- **Transfers.** `serving_readSectors` and `serving_writeSectors`.
-/

namespace SpiDisk

/-! ## Addresses -/

/-- The card understands the argument for a sector as that sector. -/
theorem sectorOf_argument {info : CardInfo} {card : SimCard}
    (hfamily : info.family = card.kind.family) (hsize : info.Addressable) {lba : UInt32}
    (hlba : lba.toNat < info.totalSectors.toNat) : card.sectorOf (info.argument lba) = lba := by
  have haddressed : info.blockAddressed = decide (card.kind = .sdhc) := by
    unfold CardInfo.blockAddressed
    rw [hfamily]
    cases card.kind <;> decide
  have hoffset : info.blockAddressed = false → (lba * 512) >>> 9 = lba := by
    intro hbytes
    have hsize := hsize hbytes
    apply UInt32.toNat_inj.mp
    rw [UInt32.toNat_shiftRight, UInt32.toNat_mul, Nat.shiftRight_eq_div_pow]
    show lba.toNat * 512 % 2 ^ 32 / 512 = lba.toNat
    omega
  unfold SimCard.sectorOf CardInfo.argument
  cases hkind : card.kind with
  | sdhc =>
    rw [haddressed, hkind]
    rfl
  | _ =>
    have hbytes : info.blockAddressed = false := by
      rw [haddressed, hkind]
      decide
    rw [hbytes]
    exact hoffset hbytes

namespace ChannelM

open SessionM CardEngine

variable {H C : Type} [CardBoard H] [TickSource C] {limit : Nat} {s s' : Session (Channel H) C}

/-! ## Transfers -/

omit [CardBoard H] [TickSource C] in
theorem isPresent_of_kind {info : CardInfo} {kind : SimKind} (h : info.family = kind.family) :
    info.isPresent = true := by
  unfold CardInfo.isPresent
  rw [h]
  cases kind <;> decide

/-- Every transfer leaves the card at rest and the bus free. -/
theorem serving_conclude {N : Type} [Diagnostic N] (h : Serving limit s) (note : CardError → N)
    (outcome : Except CardError Unit) :
    Ensures (conclude note outcome) s fun _ s' =>
      s'.sim.media = s.sim.media ∧ Served s s' ∧ s'.device.owns = false ∧ Serving limit s' := by
  refine (sim_shutdown h.settled).bind ?_
  rintro _ s₁ ⟨hsim₁, haway₁, -, hserved₁⟩
  have hsettled₁ : Settled s₁ := by
    intro _
    rw [hsim₁]
    rfl
  have hmedia₁ : s₁.sim.media = s.sim.media := by rw [hsim₁]; rfl
  have hserving₁ : Serving limit s₁ := by
    refine h.served hserved₁ ?_ ?_ ?_ hsettled₁
    · rw [hsim₁]
      rfl
    · rw [hsim₁]
      exact h.ready
    · rw [hsim₁]
      exact h.busy
  rcases outcome with error | _
  · refine (sim_report _ s₁).mono ?_
    rintro _ s₂ ⟨hsim₂, hmoved₂⟩
    have haway₂ : s₂.device.owns = false := by rw [hmoved₂.owns, haway₁]
    have hserved₂ : Served s s₂ := hserved₁.trans hmoved₂.served
    refine ⟨by rw [hsim₂, hmedia₁], hserved₂, haway₂, ?_⟩
    refine hserving₁.served hmoved₂.served ?_ ?_ ?_ ?_
    · rw [hsim₂]
    · rw [hsim₂]
      exact hserving₁.ready
    · rw [hsim₂]
      exact hserving₁.busy
    · intro _
      rw [hsim₂]
      exact hsettled₁ haway₁
  · exact ensures_pure ⟨hmedia₁, hserved₁, haway₁, hserving₁⟩

/-- **Reading into a buffer.** A run that lies on the card fills the buffer with what the card holds,
    and any other is refused. -/
theorem serving_readSectors (h : Serving limit s) (patience : Nat)
    (hformatted : s.sim.Formatted) {info : CardInfo}
    (hfamily : info.family = s.sim.kind.family) (hsize : info.Addressable) (lba : UInt32)
    (buffer : List UInt8) (hcount : 0 < buffer.length / sectorSize) :
    Ensures (readSectors patience info lba buffer) s fun result s' =>
      result = (if lba.toNat + buffer.length / sectorSize ≤ info.totalSectors.toNat then
          let (blocks, outcome) := s.sim.media.fetch lba (buffer.length / sectorSize)
          (outcome, blocks.flatten ++ buffer.drop (blocks.length * sectorSize))
        else (.error .outOfRange, buffer)) ∧
        s'.sim.media = s.sim.media ∧ Served s s' ∧ s'.device.owns = false ∧ Serving limit s' := by
  unfold readSectors
  dsimp only
  rw [isPresent_of_kind hfamily, if_neg (by decide), if_neg (by omega)]
  unfold fetchRun
  rw [info.runAddress_eq hsize lba hcount]
  by_cases hrange : lba.toNat + buffer.length / sectorSize ≤ info.totalSectors.toNat
  · rw [if_pos hrange, if_pos hrange]
    have hsector : s.sim.sectorOf (info.argument lba) = lba :=
      sectorOf_argument hfamily hsize (by omega)
    refine (serving_readRun h patience hformatted (info.argument lba) hcount).bind ?_
    rintro ⟨blocks, outcome⟩ s₁ ⟨hfetch, hserved₁, howns₁, hsim₁⟩
    rw [hsector] at hfetch
    rw [← hfetch]
    have hserving₁ : Serving limit s₁ := h.asked hserved₁ howns₁ hsim₁
    have hmedia₁ : s₁.sim.media = s.sim.media := by rw [hsim₁]; rfl
    refine (serving_conclude hserving₁ _ outcome).bind ?_
    rintro _ s₂ ⟨hmedia₂, hserved₂, haway, hserving₂⟩
    exact ensures_pure ⟨rfl, hmedia₂.trans hmedia₁, hserved₁.trans hserved₂, haway, hserving₂⟩
  · rw [if_neg hrange, if_neg hrange]
    refine ensures_bind (ensures_pure ?_)
    refine (serving_conclude h _ (.error .outOfRange)).bind ?_
    rintro _ s₁ ⟨hmedia₁, hserved₁, haway, hserving₁⟩
    exact ensures_pure ⟨rfl, hmedia₁, hserved₁, haway, hserving₁⟩

/-- **Writing from a buffer.** A run that lies on the card is stored as far as the card does not
    reject a block, and any other is refused. -/
theorem serving_writeSectors (h : Serving limit s) (patience : Nat) {info : CardInfo}
    (hfamily : info.family = s.sim.kind.family) (hsize : info.Addressable) (lba : UInt32)
    (bytes : List UInt8) (hcount : 0 < bytes.length / sectorSize) :
    Ensures (writeSectors patience info lba bytes) s fun result s' =>
      (result, s'.sim.media) =
          (if lba.toNat + bytes.length / sectorSize ≤ info.totalSectors.toNat then
            s.sim.media.put lba (sectors (bytes.length / sectorSize) bytes)
          else (.error .outOfRange, s.sim.media)) ∧
        Served s s' ∧ s'.device.owns = false ∧ Serving limit s' := by
  unfold writeSectors
  dsimp only
  rw [isPresent_of_kind hfamily, if_neg (by decide), if_neg (by omega)]
  unfold storeRun
  rw [info.runAddress_eq hsize lba hcount]
  have hlength : ∀ block ∈ sectors (bytes.length / sectorSize) bytes,
      block.length = sectorSize := by
    refine length_of_mem_sectors ?_
    exact Nat.div_mul_le_self _ _
  by_cases hrange : lba.toNat + bytes.length / sectorSize ≤ info.totalSectors.toNat
  · rw [if_pos hrange, if_pos hrange]
    have hsector : s.sim.sectorOf (info.argument lba) = lba :=
      sectorOf_argument hfamily hsize (by omega)
    refine (serving_writeRun h patience hfamily (info.argument lba) _ hlength).bind ?_
    rintro outcome s₁ ⟨hput, hserved₁, -, hserving₁⟩
    rw [hsector] at hput
    refine (serving_conclude hserving₁ _ outcome).bind ?_
    rintro _ s₂ ⟨hmedia₂, hserved₂, haway, hserving₂⟩
    refine ensures_pure ⟨?_, hserved₁.trans hserved₂, haway, hserving₂⟩
    rw [hmedia₂]
    exact hput
  · rw [if_neg hrange, if_neg hrange]
    refine ensures_bind (ensures_pure ?_)
    refine (serving_conclude h _ (.error .outOfRange)).bind ?_
    rintro _ s₁ ⟨hmedia₁, hserved₁, haway, hserving₁⟩
    refine ensures_pure ⟨?_, hserved₁, haway, hserving₁⟩
    rw [hmedia₁]

end ChannelM

end SpiDisk
