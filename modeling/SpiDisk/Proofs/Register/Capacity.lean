import SpiDisk.Proofs.Register.Csd

/-!
# `SpiDisk.Proofs.Register.Capacity` — the number of sectors that a register states

The capacity is computed in words: a number of units is shifted by an amount that depends on the register,
and the result is narrowed to 32 bits. For card-specific data that a register can hold, and for the block
lengths that are supported, nothing of this loses anything. The amount is a difference that never falls
below zero, and what is shifted keeps all its bits. So the capacity is the stated one, as a number
without bounds, and it is refused exactly if it has more than 32 bits.

## Contents
- **Block lengths.** `Csd.blockLenLog2_eq_ok_iff`.
- **Counting in a word.** `Csd.sectorShift`, `Csd.Lossless` and `Csd.lossless`.
- **Counting without bounds.** `Csd.exactSectors` and `Csd.totalSectors_eq_ok_iff`.
- **Registers.** `Csd.capacity_exact`.
-/

namespace SpiDisk

namespace Csd

/-! ## Block lengths -/

/-- The block length is a supported one. -/
def Supported (csd : Csd) : Prop :=
  csd.readBlockLog = csd.writeBlockLog ∧ 9 ≤ csd.readBlockLog.toNat ∧ csd.readBlockLog.toNat ≤ 11

theorem blockLenLog2_eq_ok_iff {csd : Csd} {blockLog : UInt8} :
    csd.blockLenLog2 = .ok blockLog ↔ csd.Supported ∧ blockLog = csd.readBlockLog := by
  have hbounds : (9 ≤ csd.readBlockLog ∧ csd.readBlockLog ≤ 11) ↔
      (9 ≤ csd.readBlockLog.toNat ∧ csd.readBlockLog.toNat ≤ 11) :=
    and_congr UInt8.le_iff_toNat_le UInt8.le_iff_toNat_le
  unfold blockLenLog2 Supported
  rw [← hbounds]
  split
  · rename_i hdiffer
    constructor
    · intro h
      cases h
    · exact fun h => absurd h.1.1 hdiffer
  rename_i hsame
  split
  · rename_i hrange
    rw [Except.ok.injEq]
    exact ⟨fun h => ⟨⟨Decidable.of_not_not hsame, hrange⟩, h.symm⟩, fun h => h.2.symm⟩
  · rename_i hrange
    constructor
    · intro h
      cases h
    · exact fun h => absurd h.1.2 hrange

theorem blockLog_le {csd : Csd} {blockLog : UInt8} (h : csd.blockLenLog2 = .ok blockLog) :
    9 ≤ blockLog.toNat ∧ blockLog.toNat ≤ 11 := by
  obtain ⟨hsupported, rfl⟩ := blockLenLog2_eq_ok_iff.mp h
  exact hsupported.2

/-! ## Counting in a word -/

/-- How far the number of units is shifted to count sectors. -/
def sectorShift (csd : Csd) (blockLog : UInt8) : UInt64 :=
  match csd.layout with
  | .v1 => csd.sizeMultiplier.toUInt64 + 2 + blockLog.toUInt64 - 9
  | .v2 => 19 - blockLog.toUInt64

theorem sectorCount_eq_shift (csd : Csd) (blockLog : UInt8) :
    csd.sectorCount blockLog = (csd.deviceSize.toUInt64 + 1) <<< csd.sectorShift blockLog := by
  unfold sectorCount sectorShift
  cases csd.layout with
  | v1 => rfl
  | v2 => rfl

/-- Nothing is lost when sectors are counted in a word of 64 bits. -/
structure Lossless (csd : Csd) (blockLog : UInt8) : Prop where
  /-- What is taken away leaves the amount of the shift, which therefore has not wrapped. -/
  amount : match csd.layout with
    | .v1 => (csd.sectorShift blockLog).toNat + 9 = csd.sizeMultiplier.toNat + 2 + blockLog.toNat
    | .v2 => (csd.sectorShift blockLog).toNat + blockLog.toNat = 19
  /-- No shift is as wide as the word. -/
  width : (csd.sectorShift blockLog).toNat < 64
  /-- All bits of the number of units are kept. -/
  count : (csd.sectorCount blockLog).toNat =
    (csd.deviceSize.toNat + 1) * 2 ^ (csd.sectorShift blockLog).toNat

theorem toNat_units (csd : Csd) :
    (csd.deviceSize.toUInt64 + 1).toNat = csd.deviceSize.toNat + 1 := by
  have hsize : csd.deviceSize.toNat < 2 ^ 32 := csd.deviceSize.toNat_lt
  rw [UInt64.toNat_add, UInt32.toNat_toUInt64]
  show (csd.deviceSize.toNat + 1) % 2 ^ 64 = _
  omega

theorem sectorShift_v1 {csd : Csd} (hlayout : csd.layout = .v1) {blockLog : UInt8}
    (hlog : 9 ≤ blockLog.toNat) :
    (csd.sectorShift blockLog).toNat + 9 = csd.sizeMultiplier.toNat + 2 + blockLog.toNat := by
  have hmultiplier : csd.sizeMultiplier.toNat < 2 ^ 8 := csd.sizeMultiplier.toNat_lt
  have hblock : blockLog.toNat < 2 ^ 8 := blockLog.toNat_lt
  have hsum : (csd.sizeMultiplier.toUInt64 + 2 + blockLog.toUInt64).toNat =
      csd.sizeMultiplier.toNat + 2 + blockLog.toNat := by
    rw [UInt64.toNat_add, UInt64.toNat_add, UInt8.toNat_toUInt64, UInt8.toNat_toUInt64]
    show ((csd.sizeMultiplier.toNat + 2) % 2 ^ 64 + blockLog.toNat) % 2 ^ 64 = _
    omega
  have hnine : (9 : UInt64) ≤ csd.sizeMultiplier.toUInt64 + 2 + blockLog.toUInt64 := by
    rw [UInt64.le_iff_toNat_le, hsum]
    show 9 ≤ _
    omega
  unfold sectorShift
  rw [hlayout]
  dsimp only
  rw [UInt64.toNat_sub_of_le _ _ hnine, hsum]
  show csd.sizeMultiplier.toNat + 2 + blockLog.toNat - 9 + 9 = _
  omega

theorem sectorShift_v2 {csd : Csd} (hlayout : csd.layout = .v2) {blockLog : UInt8}
    (hlog : blockLog.toNat ≤ 19) : (csd.sectorShift blockLog).toNat + blockLog.toNat = 19 := by
  have hle : blockLog.toUInt64 ≤ 19 := by
    rw [UInt64.le_iff_toNat_le, UInt8.toNat_toUInt64]
    exact hlog
  unfold sectorShift
  rw [hlayout]
  dsimp only
  rw [UInt64.toNat_sub_of_le _ _ hle, UInt8.toNat_toUInt64]
  exact Nat.sub_add_cancel hlog

/-- Few enough units are shifted by little enough. -/
theorem count_of_shift_le {csd : Csd} {blockLog : UInt8}
    (hshift : (csd.sectorShift blockLog).toNat ≤ 11) :
    (csd.sectorCount blockLog).toNat =
      (csd.deviceSize.toNat + 1) * 2 ^ (csd.sectorShift blockLog).toNat := by
  have hsize : csd.deviceSize.toNat < 2 ^ 32 := csd.deviceSize.toNat_lt
  have hfits : (csd.deviceSize.toNat + 1) * 2 ^ (csd.sectorShift blockLog).toNat < 2 ^ 64 :=
    calc (csd.deviceSize.toNat + 1) * 2 ^ (csd.sectorShift blockLog).toNat
        ≤ 2 ^ 32 * 2 ^ 11 := Nat.mul_le_mul hsize (Nat.pow_le_pow_right (by decide) hshift)
      _ < 2 ^ 64 := by decide
  have hamount : (csd.sectorShift blockLog).toNat % 64 = (csd.sectorShift blockLog).toNat :=
    Nat.mod_eq_of_lt (by omega)
  rw [sectorCount_eq_shift, UInt64.toNat_shiftLeft, toNat_units, hamount, Nat.shiftLeft_eq]
  exact Nat.mod_eq_of_lt hfits

/-- **Nothing is lost** for a supported block length if the multiplier is one that fits a register. -/
theorem lossless {csd : Csd} (hfits : csd.Fits) {blockLog : UInt8}
    (h : csd.blockLenLog2 = .ok blockLog) : csd.Lossless blockLog := by
  have hlog := blockLog_le h
  have hmultiplier := hfits.sizeMultiplier
  cases hlayout : csd.layout with
  | v1 =>
    rw [hlayout] at hmultiplier
    change csd.sizeMultiplier.toNat < 2 ^ 3 at hmultiplier
    have hshift := sectorShift_v1 hlayout hlog.1
    exact {
      amount := by
        rw [hlayout]
        exact hshift
      width := by omega
      count := count_of_shift_le (by omega) }
  | v2 =>
    have hshift := sectorShift_v2 hlayout (Nat.le_trans hlog.2 (by decide))
    exact {
      amount := by
        rw [hlayout]
        exact hshift
      width := by omega
      count := count_of_shift_le (by omega) }

/-! ## Counting without bounds -/

/-- The capacity in 512-byte sectors as a number without bounds. -/
def exactSectors (csd : Csd) : Nat :=
  match csd.layout with
  | .v1 => (csd.deviceSize.toNat + 1) * 2 ^ (csd.sizeMultiplier.toNat + 2) *
      2 ^ csd.readBlockLog.toNat / 512
  | .v2 => (csd.deviceSize.toNat + 1) * 2 ^ (19 - csd.readBlockLog.toNat)

/-- The bytes of the first layout are whole sectors. -/
theorem exactSectors_mul_512 {csd : Csd} (hlayout : csd.layout = .v1)
    (hlog : 9 ≤ csd.readBlockLog.toNat) : csd.exactSectors * 512 =
      (csd.deviceSize.toNat + 1) * 2 ^ (csd.sizeMultiplier.toNat + 2) *
        2 ^ csd.readBlockLog.toNat := by
  have hpower : 512 ∣ 2 ^ csd.readBlockLog.toNat := Nat.pow_dvd_pow 2 hlog
  unfold exactSectors
  rw [hlayout]
  exact Nat.div_mul_cancel (Nat.dvd_mul_left_of_dvd hpower _)

theorem exactSectors_v2 {csd : Csd} (hlayout : csd.layout = .v2) :
    csd.exactSectors = (csd.deviceSize.toNat + 1) * 2 ^ (19 - csd.readBlockLog.toNat) := by
  unfold exactSectors
  rw [hlayout]

/-- What is counted in a word is the capacity. -/
theorem toNat_sectorCount {csd : Csd} (hfits : csd.Fits) (hsupported : csd.Supported) :
    (csd.sectorCount csd.readBlockLog).toNat = csd.exactSectors := by
  have hlossless := lossless hfits (blockLenLog2_eq_ok_iff.mpr ⟨hsupported, rfl⟩)
  have hamount := hlossless.amount
  rw [hlossless.count]
  cases hlayout : csd.layout with
  | v1 =>
    rw [hlayout] at hamount
    dsimp only at hamount
    -- the bytes are compared, since the sectors of this layout are given by a division
    apply Nat.eq_of_mul_eq_mul_right (by decide : 0 < 512)
    calc (csd.deviceSize.toNat + 1) * 2 ^ (csd.sectorShift csd.readBlockLog).toNat * 2 ^ 9
        = (csd.deviceSize.toNat + 1) * 2 ^ ((csd.sectorShift csd.readBlockLog).toNat + 9) := by
          rw [Nat.mul_assoc, Nat.pow_add]
      _ = (csd.deviceSize.toNat + 1) * 2 ^ (csd.sizeMultiplier.toNat + 2) *
            2 ^ csd.readBlockLog.toNat := by
          rw [hamount, Nat.pow_add, Nat.mul_assoc]
      _ = csd.exactSectors * 512 := (exactSectors_mul_512 hlayout hsupported.2.1).symm
  | v2 =>
    rw [hlayout] at hamount
    dsimp only at hamount
    rw [exactSectors_v2 hlayout, ← Nat.eq_sub_of_add_eq hamount]

/-- Sectors are counted only in blocks of a supported length. -/
theorem blockLenLog2_of_totalSectors {csd : Csd} {total : UInt32}
    (h : csd.totalSectors = .ok total) : ∃ blockLog, csd.blockLenLog2 = .ok blockLog := by
  unfold totalSectors at h
  cases hlog : csd.blockLenLog2 with
  | error fault =>
    rw [hlog] at h
    cases h
  | ok blockLog => exact ⟨blockLog, rfl⟩

theorem totalSectors_of_supported {csd : Csd} (hfits : csd.Fits) (hsupported : csd.Supported) :
    csd.totalSectors =
      if csd.exactSectors < 2 ^ 32 then .ok csd.exactSectors.toUInt32 else .error .tooLarge := by
  have hcount := toNat_sectorCount hfits hsupported
  have hnarrow : (csd.sectorCount csd.readBlockLog).toUInt32 = csd.exactSectors.toUInt32 := by
    rw [← hcount]
    rfl
  unfold totalSectors
  rw [blockLenLog2_eq_ok_iff.mpr ⟨hsupported, rfl⟩]
  dsimp only
  rw [hcount, hnarrow]
  rfl

/-- **Sectors are counted** if the block length is supported and the capacity has 32 bits. -/
theorem totalSectors_eq_ok_iff {csd : Csd} (hfits : csd.Fits) {total : UInt32} :
    csd.totalSectors = .ok total ↔ csd.Supported ∧ csd.exactSectors = total.toNat := by
  constructor
  · intro h
    obtain ⟨blockLog, hlog⟩ := blockLenLog2_of_totalSectors h
    have hsupported := (blockLenLog2_eq_ok_iff.mp hlog).1
    rw [totalSectors_of_supported hfits hsupported] at h
    split at h
    · rename_i hword
      cases h
      exact ⟨hsupported, (UInt32.toNat_ofNat_of_lt' hword).symm⟩
    · cases h
  · rintro ⟨hsupported, hexact⟩
    rw [totalSectors_of_supported hfits hsupported, hexact, if_pos total.toNat_lt]
    exact congrArg Except.ok UInt32.ofNat_toNat

/-! ### Limits -/

theorem exactSectors_pos {csd : Csd} (hfits : csd.Fits) (hsupported : csd.Supported) :
    0 < csd.exactSectors := by
  have hlossless := lossless hfits (blockLenLog2_eq_ok_iff.mpr ⟨hsupported, rfl⟩)
  rw [← toNat_sectorCount hfits hsupported, hlossless.count]
  exact Nat.mul_pos (Nat.succ_pos _) (Nat.two_pow_pos _)

/-- A card of the first layout has four gigabytes at most. -/
theorem exactSectors_le_v1 {csd : Csd} (hfits : csd.Fits) (hlayout : csd.layout = .v1)
    (hsupported : csd.Supported) : csd.exactSectors ≤ 2 ^ 23 := by
  have hsize := hfits.deviceSize
  have hmultiplier := hfits.sizeMultiplier
  rw [hlayout] at hsize hmultiplier
  change csd.deviceSize.toNat < 2 ^ 12 at hsize
  change csd.sizeMultiplier.toNat < 2 ^ 3 at hmultiplier
  obtain ⟨-, hlow, hhigh⟩ := hsupported
  apply Nat.le_of_mul_le_mul_right _ (by decide : 0 < 512)
  calc csd.exactSectors * 512
      = (csd.deviceSize.toNat + 1) * 2 ^ (csd.sizeMultiplier.toNat + 2) *
          2 ^ csd.readBlockLog.toNat := exactSectors_mul_512 hlayout hlow
    _ ≤ 2 ^ 12 * 2 ^ 9 * 2 ^ 11 :=
        Nat.mul_le_mul (Nat.mul_le_mul hsize (Nat.pow_le_pow_right (by decide) (by omega)))
          (Nat.pow_le_pow_right (by decide) hhigh)
    _ = 2 ^ 23 * 512 := by decide

/-! ## Registers -/

theorem layout_decode (layout : CsdLayout) (bytes : List UInt8) :
    (decode layout bytes).layout = layout := by
  cases layout with
  | v1 => rfl
  | v2 => rfl

theorem toNat_deviceSize_decode (layout : CsdLayout) (bytes : List UInt8) :
    (decode layout bytes).deviceSize.toNat = (deviceSizeField layout).read (Image.ofBytes bytes) := by
  cases layout with
  | v1 => exact Field.toNat_toUInt32_read (by decide) _
  | v2 => exact Field.toNat_toUInt32_read (by decide) _

theorem toNat_readBlockLog_decode (layout : CsdLayout) (bytes : List UInt8) :
    (decode layout bytes).readBlockLog.toNat = readBlockLogField.read (Image.ofBytes bytes) := by
  cases layout with
  | v1 => exact Field.toNat_toUInt8_read (by decide) _
  | v2 => exact Field.toNat_toUInt8_read (by decide) _

theorem toNat_sizeMultiplier_decode (bytes : List UInt8) :
    (decode .v1 bytes).sizeMultiplier.toNat = sizeMultiplierField.read (Image.ofBytes bytes) :=
  Field.toNat_toUInt8_read (by decide) _

/-- **Capacity.** A card of the first layout has no more sectors than have an offset of 32 bits. -/
theorem totalSectors_le {bytes : List UInt8} {total : UInt32}
    (h : (decode .v1 bytes).totalSectors = .ok total) : total.toNat ≤ 2 ^ 23 := by
  obtain ⟨hsupported, htotal⟩ := (totalSectors_eq_ok_iff (fits_decode ..)).mp h
  rw [← htotal]
  exact exactSectors_le_v1 (fits_decode ..) (layout_decode ..) hsupported

/-- **The capacity is exact.** Whatever sixteen bytes are decoded in whichever layout: sectors are counted
    exactly if the block lengths agree and are supported and the capacity has 32 bits. What is counted is
    then the capacity that the fields of the register state, without a remainder, and is never zero. In the
    word in which it was computed no shift wrapped, none was too wide and no bit was lost. -/
theorem capacity_exact (layout : CsdLayout) (bytes : List UInt8) :
    let image := Image.ofBytes bytes
    let csd := decode layout bytes
    ((∃ total, csd.totalSectors = .ok total) ↔
      csd.readBlockLog = csd.writeBlockLog ∧
      (9 ≤ csd.readBlockLog.toNat ∧ csd.readBlockLog.toNat ≤ 11) ∧ csd.exactSectors < 2 ^ 32) ∧
    (∀ total, csd.totalSectors = .ok total → 0 < total.toNat ∧ total.toNat = csd.exactSectors ∧
      match layout with
      | .v1 => total.toNat ≤ 2 ^ 23 ∧
        total.toNat * 512 = ((deviceSizeField .v1).read image + 1) *
          2 ^ (sizeMultiplierField.read image + 2) * 2 ^ readBlockLogField.read image
      | .v2 => total.toNat = ((deviceSizeField .v2).read image + 1) *
          2 ^ (19 - readBlockLogField.read image)) ∧
    ∀ blockLog, csd.blockLenLog2 = .ok blockLog → csd.Lossless blockLog := by
  dsimp only
  have hfits := fits_decode layout bytes
  refine ⟨?_, fun total htotal => ?_, fun blockLog hlog => lossless hfits hlog⟩
  · constructor
    · rintro ⟨total, htotal⟩
      obtain ⟨hsupported, hexact⟩ := (totalSectors_eq_ok_iff hfits).mp htotal
      exact ⟨hsupported.1, hsupported.2, hexact ▸ total.toNat_lt⟩
    · rintro ⟨hsame, hrange, hword⟩
      refine ⟨(decode layout bytes).exactSectors.toUInt32, (totalSectors_eq_ok_iff hfits).mpr ?_⟩
      exact ⟨⟨hsame, hrange⟩, (UInt32.toNat_ofNat_of_lt' hword).symm⟩
  · obtain ⟨hsupported, hexact⟩ := (totalSectors_eq_ok_iff hfits).mp htotal
    refine ⟨hexact ▸ exactSectors_pos hfits hsupported, hexact.symm, ?_⟩
    rw [← hexact]
    cases layout with
    | v1 =>
      refine ⟨exactSectors_le_v1 hfits (layout_decode ..) hsupported, ?_⟩
      rw [exactSectors_mul_512 (layout_decode ..) hsupported.2.1, toNat_deviceSize_decode,
        toNat_sizeMultiplier_decode, toNat_readBlockLog_decode]
    | v2 =>
      dsimp only
      rw [exactSectors_v2 (layout_decode ..), toNat_deviceSize_decode, toNat_readBlockLog_decode]

/-- The register of a card of two gigabytes, which has to have blocks of 1024 bytes to state them. -/
def twoGigabytes : List UInt8 :=
  [0x00, 0x26, 0x00, 0x32, 0x5B, 0x5A, 0x83, 0xFF, 0xFE, 0xFB, 0xCF, 0x80, 0x0A, 0x80, 0x00, 0x8F]

/-- The register of a card of eight gigabytes. -/
def eightGigabytes : List UInt8 :=
  [0x40, 0x0E, 0x00, 0x32, 0x5B, 0x59, 0x00, 0x00, 0x3B, 0x37, 0x7F, 0x80, 0x0A, 0x40, 0x00, 0x8D]

/-- The capacities of two cards, one of each layout. -/
theorem capacity_exact_gigabytes :
    (decode .v1 twoGigabytes).totalSectors = .ok 4194304 ∧
    4194304 * 512 = ((deviceSizeField .v1).read (Image.ofBytes twoGigabytes) + 1) *
      2 ^ (sizeMultiplierField.read (Image.ofBytes twoGigabytes) + 2) *
      2 ^ readBlockLogField.read (Image.ofBytes twoGigabytes) ∧
    (decode .v1 twoGigabytes).Lossless 10 ∧
    (decode .v2 eightGigabytes).totalSectors = .ok 15523840 ∧
    15523840 = ((deviceSizeField .v2).read (Image.ofBytes eightGigabytes) + 1) *
      2 ^ (19 - readBlockLogField.read (Image.ofBytes eightGigabytes)) ∧
    (decode .v2 eightGigabytes).Lossless 9 := by
  have hsmall : (decode .v1 twoGigabytes).totalSectors = .ok 4194304 := by decide +kernel
  have hlarge : (decode .v2 eightGigabytes).totalSectors = .ok 15523840 := by decide +kernel
  exact ⟨hsmall, ((capacity_exact .v1 twoGigabytes).2.1 _ hsmall).2.2.2,
    (capacity_exact .v1 twoGigabytes).2.2 10 (by decide +kernel),
    hlarge, ((capacity_exact .v2 eightGigabytes).2.1 _ hlarge).2.2,
    (capacity_exact .v2 eightGigabytes).2.2 9 (by decide +kernel)⟩

end Csd

end SpiDisk
