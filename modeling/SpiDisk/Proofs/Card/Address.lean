import SpiDisk.Card.Transfer
import SpiDisk.Proofs.Register.Capacity

/-!
# `SpiDisk.Proofs.Card.Address` — how the sectors of a card are addressed

A register of the first layout states four gigabytes at most, so that the byte offset of every sector of
such a card fits the argument of a command. On a card that is addressable in this sense a run is refused
exactly if it does not lie on the card.

## Contents
- **Addresses.** `CardInfo.Addressable` and `CardInfo.runAddress_eq`.
- **Sectors of a buffer.** What `sectors` cuts out of one.
-/

namespace SpiDisk

namespace CardInfo

/-! ## Addresses -/

/-- Whether the byte offset of every sector of the card fits 32 bits, if it is needed. -/
def Addressable (info : CardInfo) : Prop :=
  info.blockAddressed = false → info.totalSectors.toNat ≤ 2 ^ 23

/-- The command argument for a sector of an addressable card. -/
def argument (info : CardInfo) (lba : UInt32) : UInt32 :=
  if info.blockAddressed then lba else lba * 512

/-- What is known of the size of a card was read from a register in the layout of its family. -/
structure Measured (info : CardInfo) : Prop where
  register : ∃ raw, info.csd = Csd.decode info.family.csdLayout raw
  sectors : info.csd.totalSectors = .ok info.totalSectors
  block : info.csd.blockLenLog2 = .ok info.blockLog

/-- A card that was measured is addressable: only a small one takes byte offsets. -/
theorem Measured.addressable {info : CardInfo} (h : info.Measured) : info.Addressable := by
  intro hbytes
  have hlayout : info.family.csdLayout = .v1 := by
    unfold blockAddressed at hbytes
    cases hfamily : info.family with
    | sdhc =>
      rw [hfamily] at hbytes
      cases hbytes
    | _ => rfl
  obtain ⟨raw, hraw⟩ := h.register
  have hsize := h.sectors
  rw [hraw, hlayout] at hsize
  exact Csd.totalSectors_le hsize

theorem address?_eq {info : CardInfo} (hsize : info.Addressable) {lba : UInt32}
    (hlba : lba.toNat < info.totalSectors.toNat) : info.address? lba = some (info.argument lba) := by
  unfold address? argument
  cases haddressed : info.blockAddressed with
  | true => rfl
  | false =>
    have hfits : lba.toNat * sectorSize < UInt32.size := by
      have hsize := hsize haddressed
      show lba.toNat * 512 < 2 ^ 32
      omega
    rw [if_neg (by decide), if_pos hfits, if_neg (by decide)]

/-- A run is refused exactly if it does not lie on the card. -/
theorem runAddress_eq (info : CardInfo) (hsize : info.Addressable) (lba : UInt32) {count : Nat}
    (hcount : 0 < count) :
    info.runAddress lba count =
      if lba.toNat + count ≤ info.totalSectors.toNat then .ok (info.argument lba)
      else .error .outOfRange := by
  unfold runAddress
  by_cases hrange : lba.toNat + count ≤ info.totalSectors.toNat
  · rw [if_pos hrange, if_pos hrange]
    have hbound : info.totalSectors.toNat < 2 ^ 32 := info.totalSectors.toNat_lt
    have hlast : (lba.toNat + count - 1).toUInt32.toNat = lba.toNat + count - 1 := by
      show (lba.toNat + count - 1) % 2 ^ 32 = _
      exact Nat.mod_eq_of_lt (by omega)
    rw [address?_eq hsize (by rw [hlast]; omega), address?_eq hsize (by omega)]
  · rw [if_neg hrange, if_neg hrange]

/-- A run that has an address lies on the card, so that its sectors can be counted in 32 bits. -/
theorem count_lt_of_runAddress {info : CardInfo} {lba argument : UInt32} {count : Nat}
    (h : info.runAddress lba count = .ok argument) : count < 2 ^ 32 := by
  unfold runAddress at h
  split at h
  · have htotal := info.totalSectors.toNat_lt
    omega
  · cases h

end CardInfo

/-! ## Sectors of a buffer -/

theorem length_sectors (count : Nat) (bytes : List UInt8) : (sectors count bytes).length = count := by
  induction count generalizing bytes with
  | zero => rfl
  | succ count ih =>
    rw [sectors, List.length_cons, ih]

theorem getElem?_sectors {count i : Nat} (hlt : i < count) (bytes : List UInt8) :
    (sectors count bytes)[i]? = some ((bytes.drop (i * sectorSize)).take sectorSize) := by
  induction count generalizing i bytes with
  | zero => cases hlt
  | succ count ih =>
    rw [sectors]
    cases i with
    | zero => rw [Nat.zero_mul, List.drop_zero, List.getElem?_cons_zero]
    | succ i =>
      rw [List.getElem?_cons_succ, ih (Nat.lt_of_succ_lt_succ hlt), List.drop_drop, Nat.succ_mul,
        Nat.add_comm]

theorem length_of_mem_sectors {count : Nat} {bytes : List UInt8}
    (hbytes : count * sectorSize ≤ bytes.length) :
    ∀ block ∈ sectors count bytes, block.length = sectorSize := by
  induction count generalizing bytes with
  | zero => exact fun _ hmem => nomatch hmem
  | succ count ih =>
    intro block hmem
    rw [Nat.succ_mul] at hbytes
    rcases List.mem_cons.mp hmem with rfl | hmem
    · rw [List.length_take]
      omega
    · refine ih ?_ block hmem
      rw [List.length_drop]
      omega

/-- Blocks that were put together are the sectors of what they make up. -/
theorem sectors_flatten {blocks : List (List UInt8)}
    (hlength : ∀ block ∈ blocks, block.length = sectorSize) (rest : List UInt8) :
    sectors blocks.length (blocks.flatten ++ rest) = blocks := by
  induction blocks with
  | nil => rfl
  | cons block blocks ih =>
    have hfirst : block.length = sectorSize := hlength block (List.mem_cons_self ..)
    have hothers : ∀ other ∈ blocks, other.length = sectorSize :=
      fun other hmem => hlength other (List.mem_cons_of_mem block hmem)
    rw [List.length_cons, sectors, List.flatten_cons, List.append_assoc, ← hfirst,
      List.take_left, List.drop_left, ih hothers]

theorem length_flatten_sectors {blocks : List (List UInt8)}
    (hlength : ∀ block ∈ blocks, block.length = sectorSize) :
    blocks.flatten.length = blocks.length * sectorSize := by
  rw [List.length_flatten, List.map_congr_left hlength, List.map_const', List.sum_replicate_nat]

/-- Behind the blocks that came in, a buffer is as it was. -/
theorem drop_flatten_sectors {blocks : List (List UInt8)}
    (hlength : ∀ block ∈ blocks, block.length = sectorSize) (rest : List UInt8) :
    (blocks.flatten ++ rest).drop (blocks.length * sectorSize) = rest := by
  rw [← length_flatten_sectors hlength, List.drop_left]

/-- Blocks that are put in front of a buffer that has room for them leave its length as it is. -/
theorem length_overwrite {blocks : List (List UInt8)} {buffer : List UInt8}
    (hlength : ∀ block ∈ blocks, block.length = sectorSize)
    (hroom : blocks.length ≤ buffer.length / sectorSize) :
    (blocks.flatten ++ buffer.drop (blocks.length * sectorSize)).length = buffer.length := by
  have hfits : blocks.length * sectorSize ≤ buffer.length :=
    Nat.le_trans (Nat.mul_le_mul_right _ hroom) (Nat.div_mul_le_self ..)
  rw [List.length_append, length_flatten_sectors hlength, List.length_drop]
  omega

end SpiDisk
