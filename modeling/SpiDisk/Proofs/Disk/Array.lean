import SpiDisk.Disk.Error
import SpiDisk.Proofs.Sim.Transfers

/-!
# `SpiDisk.Proofs.Disk.Array` — a plain array of sectors

What a disk comes to for those who use it: so many sectors, each with its contents, one of which may
be impossible to read, and a count of blocks one of which may be rejected. A transfer either takes
place as a whole, or up to the sector that fails, or not at all. A simulated card that is seen as
such an array hands over and changes sectors as the array does.

## Contents
- **Arrays.** `SectorArray` with `readable` and `storable`, how far a transfer comes, and
  `SectorArray.read` and `SectorArray.write`.
- **Cards as arrays.** `SimCard.array`, with `SimCard.fetch_eq` and `SimCard.put_eq`.
-/

namespace SpiDisk

/-! ## Arrays -/

/-- A plain array of sectors, with what makes a transfer fail midway. -/
structure SectorArray where
  /-- The number of sectors. -/
  total : Nat
  contents : UInt32 → List UInt8
  /-- Blocks that were written to it, with those that were rejected. -/
  attempts : Nat
  /-- The block that is rejected, counting every block written from one. -/
  failWrite : Option Nat
  /-- The sector that cannot be read. -/
  failRead : Option UInt32

namespace SectorArray

/-- How many sectors of a run come before one that cannot be read. -/
def readable (array : SectorArray) (lba : UInt32) (count : Nat) : Nat :=
  match array.failRead with
  | some bad =>
    if lba.toNat ≤ bad.toNat ∧ bad.toNat < lba.toNat + count then bad.toNat - lba.toNat else count
  | none => count

/-- How many blocks of a run come before one that is rejected. -/
def storable (array : SectorArray) (count : Nat) : Nat :=
  match array.failWrite with
  | some block =>
    if array.attempts < block ∧ block ≤ array.attempts + count then block - array.attempts - 1
    else count
  | none => count

/-- The contents of a run of sectors. -/
def run (array : SectorArray) (lba : UInt32) (count : Nat) : List (List UInt8) :=
  (List.range count).map fun i => array.contents (lba + UInt32.ofNat i)

/-- The array after a run of blocks was written to it: the sectors up to a block that is rejected
    have changed, each to its own part of the data, and no other has. -/
def store (array : SectorArray) (lba : UInt32) (count : Nat) (bytes : List UInt8) : SectorArray :=
  { array with
    contents := fun sector =>
      if lba.toNat ≤ sector.toNat ∧ sector.toNat < lba.toNat + array.storable count then
        (bytes.drop ((sector.toNat - lba.toNat) * sectorSize)).take sectorSize
      else array.contents sector
    attempts := array.attempts + min (array.storable count + 1) count }

/-- **Reading** from an array into a buffer. -/
def read (array : SectorArray) (lba : UInt32) (count : Nat) (buffer : List UInt8) :
    Except DiskError Unit × List UInt8 :=
  if buffer.length < count * sectorSize then (.error .badLength, buffer)
  else if count = 0 then (.ok (), buffer)
  else if array.total < lba.toNat + count then (.error .aborted, buffer)
  else
    let good := array.readable lba count
    (if good = count then .ok () else .error .aborted,
      (array.run lba good).flatten ++ buffer.drop (good * sectorSize))

/-- **Writing** to an array from a buffer. -/
def write (array : SectorArray) (lba : UInt32) (count : Nat) (buffer : List UInt8) :
    Except DiskError Unit × SectorArray :=
  if buffer.length < count * sectorSize then (.error .badLength, array)
  else if count = 0 then (.ok (), array)
  else if array.total < lba.toNat + count then (.error .aborted, array)
  else
    (if array.storable count = count then .ok () else .error .aborted, array.store lba count buffer)

/-! ## Runs, sector by sector -/

theorem toNat_next {lba : UInt32} (h : lba.toNat + 1 < 2 ^ 32) : (lba + 1).toNat = lba.toNat + 1 := by
  rw [UInt32.toNat_add]
  show (lba.toNat + 1) % 2 ^ 32 = _
  exact Nat.mod_eq_of_lt h

theorem readable_zero (array : SectorArray) (lba : UInt32) : array.readable lba 0 = 0 := by
  unfold readable
  split
  · rw [if_neg (by omega)]
  · rfl

theorem readable_succ_of_bad {array : SectorArray} {lba : UInt32}
    (hbad : array.failRead = some lba) (count : Nat) : array.readable lba (count + 1) = 0 := by
  unfold readable
  rw [hbad]
  dsimp only
  rw [if_pos (by omega), Nat.sub_self]

theorem readable_succ_of_good {array : SectorArray} {lba : UInt32}
    (hgood : array.failRead ≠ some lba) {count : Nat} (hbound : lba.toNat + 1 < 2 ^ 32) :
    array.readable lba (count + 1) = array.readable (lba + 1) count + 1 := by
  unfold readable
  rw [toNat_next hbound]
  cases hbad : array.failRead with
  | none => rfl
  | some bad =>
    have hne : bad.toNat ≠ lba.toNat := by
      intro heq
      rw [hbad, UInt32.toNat_inj.mp heq] at hgood
      exact hgood rfl
    dsimp only
    split
    · rw [if_pos (by omega)]
      omega
    · rw [if_neg (by omega)]

theorem readable_le (array : SectorArray) (lba : UInt32) (count : Nat) :
    array.readable lba count ≤ count := by
  unfold readable
  split
  · split
    · omega
    · exact Nat.le_refl count
  · exact Nat.le_refl count

theorem run_zero (array : SectorArray) (lba : UInt32) : array.run lba 0 = [] := rfl

theorem run_succ (array : SectorArray) (lba : UInt32) (count : Nat) :
    array.run lba (count + 1) = array.contents lba :: array.run (lba + 1) count := by
  unfold run
  rw [List.range_succ_eq_map, List.map_cons, List.map_map]
  have hfirst : lba + UInt32.ofNat 0 = lba := UInt32.add_zero lba
  have hrest : ∀ i, lba + UInt32.ofNat (i + 1) = lba + 1 + UInt32.ofNat i := by
    intro i
    rw [UInt32.ofNat_add, UInt32.add_assoc, UInt32.add_comm (UInt32.ofNat i)]
    rfl
  rw [hfirst]
  refine congrArg _ (List.map_congr_left fun i _ => ?_)
  show array.contents (lba + UInt32.ofNat (i + 1)) = _
  rw [hrest]

theorem length_run (array : SectorArray) (lba : UInt32) (count : Nat) :
    (array.run lba count).length = count := by
  unfold run
  rw [List.length_map, List.length_range]

/-- The array after one block more was sent to it. -/
def counted (array : SectorArray) : SectorArray :=
  { array with attempts := array.attempts + 1 }

/-- The array with other contents of a sector. -/
def holding (array : SectorArray) (lba : UInt32) (block : List UInt8) : SectorArray :=
  { array with contents := fun sector => if sector = lba then block else array.contents sector }

theorem storable_zero (array : SectorArray) : array.storable 0 = 0 := by
  unfold storable
  split
  · rw [if_neg (by omega)]
  · rfl

theorem storable_succ_of_rejected {array : SectorArray}
    (hreject : array.failWrite = some (array.attempts + 1)) (count : Nat) :
    array.storable (count + 1) = 0 := by
  unfold storable
  rw [hreject]
  dsimp only
  rw [if_pos (by omega)]
  omega

theorem storable_succ_of_kept {array : SectorArray}
    (hkeep : array.failWrite ≠ some (array.attempts + 1)) (lba : UInt32) (block : List UInt8)
    (count : Nat) :
    array.storable (count + 1) = (array.counted.holding lba block).storable count + 1 := by
  unfold storable
  show _ = (match array.failWrite with
    | some block =>
      if array.attempts + 1 < block ∧ block ≤ array.attempts + 1 + count then
        block - (array.attempts + 1) - 1
      else count
    | none => count) + 1
  cases hreject : array.failWrite with
  | none => rfl
  | some block =>
    have hne : block ≠ array.attempts + 1 := by
      intro heq
      rw [hreject, heq] at hkeep
      exact hkeep rfl
    dsimp only
    split
    · rw [if_pos (by omega)]
      omega
    · rw [if_neg (by omega)]

theorem storable_le (array : SectorArray) (count : Nat) : array.storable count ≤ count := by
  unfold storable
  split
  · split
    · omega
    · exact Nat.le_refl count
  · exact Nat.le_refl count

/-- What lies behind the run is not looked at. -/
theorem store_take (array : SectorArray) (lba : UInt32) (count : Nat) (bytes : List UInt8) :
    array.store lba count (bytes.take (count * sectorSize)) = array.store lba count bytes := by
  have hle := array.storable_le count
  unfold store
  congr 1
  funext sector
  by_cases hrun : lba.toNat ≤ sector.toNat ∧ sector.toNat < lba.toNat + array.storable count
  · have hinside : (sector.toNat - lba.toNat) * sectorSize + sectorSize ≤ count * sectorSize := by
      rw [← Nat.succ_mul]
      exact Nat.mul_le_mul_right sectorSize (by omega)
    rw [if_pos hrun, if_pos hrun, List.drop_take, List.take_take, Nat.min_eq_left (by omega)]
  · rw [if_neg hrun, if_neg hrun]

/-- A run of which no block is stored changes no sector. -/
theorem store_of_none {array : SectorArray} {count : Nat} (hnone : array.storable count = 0)
    (lba : UInt32) (bytes : List UInt8) :
    array.store lba count bytes = { array with attempts := array.attempts + min 1 count } := by
  have hcontents : (fun sector : UInt32 =>
      if lba.toNat ≤ sector.toNat ∧ sector.toNat < lba.toNat + array.storable count then
        (bytes.drop ((sector.toNat - lba.toNat) * sectorSize)).take sectorSize
      else array.contents sector) = array.contents := by
    funext sector
    rw [hnone, if_neg (by omega)]
  unfold store
  rw [hcontents, hnone]

theorem store_zero (array : SectorArray) (lba : UInt32) (bytes : List UInt8) :
    array.store lba 0 bytes = array := by
  rw [store_of_none array.storable_zero]
  rfl

theorem store_succ_of_rejected {array : SectorArray}
    (hreject : array.failWrite = some (array.attempts + 1)) (lba : UInt32) (count : Nat)
    (bytes : List UInt8) : array.store lba (count + 1) bytes = array.counted := by
  rw [store_of_none (storable_succ_of_rejected hreject count), Nat.min_eq_left (by omega), counted]

/-- A run is stored by storing its first block and then the others. -/
theorem store_succ_of_kept {array : SectorArray}
    (hkeep : array.failWrite ≠ some (array.attempts + 1)) {lba : UInt32}
    (hbound : lba.toNat + 1 < 2 ^ 32) (count : Nat) (bytes : List UInt8) :
    array.store lba (count + 1) bytes =
      (array.counted.holding lba (bytes.take sectorSize)).store (lba + 1) count
        (bytes.drop sectorSize) := by
  have hkept := storable_succ_of_kept hkeep lba (bytes.take sectorSize) count
  generalize hmore : (array.counted.holding lba (bytes.take sectorSize)).storable count = more at hkept
  have hcontents : (fun sector : UInt32 =>
      if lba.toNat ≤ sector.toNat ∧ sector.toNat < lba.toNat + (more + 1) then
        (bytes.drop ((sector.toNat - lba.toNat) * sectorSize)).take sectorSize
      else array.contents sector) =
      fun sector =>
        if (lba + 1).toNat ≤ sector.toNat ∧ sector.toNat < (lba + 1).toNat + more then
          ((bytes.drop sectorSize).drop ((sector.toNat - (lba + 1).toNat) * sectorSize)).take sectorSize
        else if sector = lba then bytes.take sectorSize else array.contents sector := by
    funext sector
    rw [toNat_next hbound]
    -- the first sector of the run is the one that the rest of it leaves as it is
    rcases Nat.lt_trichotomy sector.toNat lba.toNat with hlt | heq | hgt
    · have hne : sector ≠ lba := by
        rintro rfl
        omega
      rw [if_neg (by omega), if_neg (by omega), if_neg hne]
    · rw [if_pos (by omega), if_neg (by omega), if_pos (UInt32.toNat_inj.mp heq), heq, Nat.sub_self,
        Nat.zero_mul, List.drop_zero]
    · have hne : sector ≠ lba := by
        rintro rfl
        omega
      have hoffset : sectorSize + (sector.toNat - (lba.toNat + 1)) * sectorSize =
          (sector.toNat - lba.toNat) * sectorSize := by
        rw [Nat.add_comm, ← Nat.succ_mul]
        congr 1
        omega
      by_cases hrun : sector.toNat < lba.toNat + (more + 1)
      · rw [if_pos (by omega), if_pos (by omega), List.drop_drop, hoffset]
      · rw [if_neg (by omega), if_neg (by omega), if_neg hne]
  have hattempts : array.attempts + min (more + 1 + 1) (count + 1) =
      array.attempts + 1 + min (more + 1) count := by
    omega
  unfold store
  rw [hkept, hmore, hcontents, hattempts]
  rfl

end SectorArray

/-! ## Cards as arrays -/

namespace SimCard

/-- A card seen as an array of so many sectors. -/
def array (card : SimCard) (total : Nat) : SectorArray where
  total := total
  contents := card.sector
  attempts := card.writeAttempts
  failWrite := card.knobs.failWriteBlock
  failRead := card.knobs.failReadLba

theorem array_media (card : SimCard) (total : Nat) : card.media.array total = card.array total := rfl

theorem array_holding (card : SimCard) (lba : UInt32) (block : List UInt8) (total : Nat) :
    (card.counted.holding lba block).array total =
      ((card.array total).counted.holding lba block) := by
  have hcontents : (card.counted.holding lba block).sector =
      fun sector => if sector = lba then block else card.sector sector := by
    funext sector
    show ((((lba, block) :: card.storage).lookup sector).getD _) = _
    rw [List.lookup_cons]
    by_cases heq : sector = lba
    · rw [if_pos heq, heq, beq_self_eq_true]
      rfl
    · have hbeq : (sector == lba) = false := beq_eq_false_iff_ne.mpr heq
      rw [if_neg heq, hbeq]
      rfl
  unfold array
  rw [hcontents]
  rfl

/-- A card hands over the run of its array up to the sector that cannot be read. -/
theorem fetch_eq (card : SimCard) (total : Nat) {lba : UInt32} {count : Nat}
    (hbound : lba.toNat + count < 2 ^ 32) :
    card.fetch lba count =
      ((card.array total).run lba ((card.array total).readable lba count),
        if (card.array total).readable lba count = count then .ok () else .error .badResponse) := by
  induction count generalizing lba with
  | zero =>
    rw [SectorArray.readable_zero, SectorArray.run_zero, if_pos rfl]
    rfl
  | succ count ih =>
    rw [fetch]
    by_cases hbad : card.knobs.failReadLba = some lba
    · have hbad' : (card.array total).failRead = some lba := hbad
      rw [if_pos hbad, SectorArray.readable_succ_of_bad hbad', SectorArray.run_zero,
        if_neg (by omega)]
    · have hgood : (card.array total).failRead ≠ some lba := hbad
      have hnext : lba.toNat + 1 < 2 ^ 32 := by omega
      have hrest : (lba + 1).toNat + count < 2 ^ 32 := by
        rw [SectorArray.toNat_next hnext]
        omega
      rw [if_neg hbad, ih hrest, SectorArray.readable_succ_of_good hgood hnext,
        SectorArray.run_succ]
      simp only [Nat.add_right_cancel_iff]
      rfl

/-- A card changes as its array does, and succeeds as far as its array keeps every block. -/
theorem put_eq (card : SimCard) (total : Nat) {lba : UInt32} {count : Nat} (bytes : List UInt8)
    (hbound : lba.toNat + count < 2 ^ 32) :
    (card.put lba (sectors count bytes)).1 =
        (if (card.array total).storable count = count then .ok () else .error .badResponse) ∧
      (card.put lba (sectors count bytes)).2.array total =
        (card.array total).store lba count bytes := by
  induction count generalizing card lba bytes with
  | zero =>
    rw [SectorArray.storable_zero, SectorArray.store_zero, if_pos rfl]
    exact ⟨rfl, rfl⟩
  | succ count ih =>
    rw [sectors, put]
    by_cases hfail : card.knobs.failWriteBlock = some card.counted.writeAttempts
    · have hreject : (card.array total).failWrite = some ((card.array total).attempts + 1) := hfail
      rw [if_pos hfail, SectorArray.storable_succ_of_rejected hreject,
        SectorArray.store_succ_of_rejected hreject, if_neg (by omega)]
      exact ⟨rfl, rfl⟩
    · have hkeep : (card.array total).failWrite ≠ some ((card.array total).attempts + 1) := hfail
      have hnext : lba.toNat + 1 < 2 ^ 32 := by omega
      have hrest : (lba + 1).toNat + count < 2 ^ 32 := by
        rw [SectorArray.toNat_next hnext]
        omega
      -- the rest of the run finds the card as its first block has left it
      obtain ⟨houtcome, harray⟩ :=
        ih (card.counted.holding lba (bytes.take sectorSize)) (bytes.drop sectorSize) hrest
      rw [array_holding] at houtcome harray
      rw [if_neg hfail, houtcome, harray,
        SectorArray.storable_succ_of_kept hkeep lba (bytes.take sectorSize),
        SectorArray.store_succ_of_kept hkeep hnext]
      simp only [Nat.add_right_cancel_iff]
      exact ⟨trivial, trivial⟩

end SimCard

end SpiDisk
