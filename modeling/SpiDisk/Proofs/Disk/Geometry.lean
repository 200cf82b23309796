import Mathlib.Algebra.Group.Nat.Defs
import Mathlib.Data.UInt
import SpiDisk.Disk.Identify

/-!
# `SpiDisk.Proofs.Disk.Geometry` — what a layout covers, and what a disk advertises of it

Whatever the size of a disk, the layout chosen for it is one of the candidates, so that its cylinders
cover no more than the disk has and their sectors are counted without wrapping. The answer by which the
disk introduces itself holds two capacities: the one that its cylinders, heads and sectors per track
multiply to, of which the cylinders are cut to 16 bits, and the number of sectors, cut to 28 bits. Cut as
they are, the first is never above the second.

## Contents
- **Layouts.** `Geometry.choose_mem`, `Geometry.cover_eq` and `Geometry.toNat_logicalSectors`.
- **Capacities.** `Identify.cylinderCapacity` and `Identify.sectorCapacity`, read back from an answer.
- **Order.** `Identify.cylinderCapacity_le` and `Identify.sectorCapacity_le`.
-/

namespace SpiDisk

namespace Geometry

/-! ## Layouts -/

/-- A disk too big for every candidate gets the last of them. -/
theorem choose_mem (total : UInt32) : choose total ∈ candidates := by
  unfold choose
  generalize hfound : List.find? _ candidates = found
  cases found with
  | some layout => exact List.mem_of_find?_eq_some hfound
  | none => decide

/-- The sectors of a cylinder, of so many sectors per track and heads. -/
def cylinderSize (layout : UInt32 × UInt32) : Nat :=
  layout.2.toNat * layout.1.toNat

theorem candidate_bounds : ∀ layout ∈ candidates,
    0 < cylinderSize layout ∧ layout.2.toNat ≤ 16 ∧ layout.1.toNat ≤ 255 := by
  -- the table is gone through, and not all layouts that there could be
  have htable : candidates.all (fun layout => decide (0 < cylinderSize layout ∧
      layout.2.toNat ≤ 16 ∧ layout.1.toNat ≤ 255)) = true := by
    decide
  exact fun layout hmem => of_decide_eq_true (List.all_eq_true.mp htable layout hmem)

/-- The sectors that the cylinders of a geometry cover. -/
def cover (geometry : Geometry) : Nat :=
  geometry.cylinders.toNat * (geometry.heads.toNat * geometry.sectorsPerTrack.toNat)

variable (total : UInt32)

theorem bounds_ofSectors :
    (ofSectors total).heads.toNat ≤ 16 ∧ (ofSectors total).sectorsPerTrack.toNat ≤ 255 :=
  (candidate_bounds _ (choose_mem total)).2

/-- The sectors of a candidate's cylinder are counted without wrapping. -/
theorem toNat_quotient {layout : UInt32 × UInt32} (hmem : layout ∈ candidates) :
    (total / (layout.2 * layout.1)).toNat = total.toNat / cylinderSize layout := by
  obtain ⟨-, hheads, htrack⟩ := candidate_bounds layout hmem
  have hproduct : layout.2.toNat * layout.1.toNat < 2 ^ 32 :=
    Nat.lt_of_le_of_lt (Nat.mul_le_mul hheads htrack) (by decide)
  rw [UInt32.toNat_div, UInt32.toNat_mul, Nat.mod_eq_of_lt hproduct]
  rfl

theorem toNat_cylinders :
    (ofSectors total).cylinders.toNat = total.toNat / cylinderSize (choose total) :=
  toNat_quotient total (choose_mem total)

/-- The cylinders cover what the disk has, less what does not fill one of them. -/
theorem cover_eq : (ofSectors total).cover =
    total.toNat / cylinderSize (choose total) * cylinderSize (choose total) := by
  unfold cover
  rw [toNat_cylinders]
  rfl

/-- What does not fill a cylinder is given up. -/
theorem cover_le : (ofSectors total).cover ≤ total.toNat := by
  rw [cover_eq]
  exact Nat.div_mul_le_self _ _

/-- The sectors of the cylinders are counted without wrapping. -/
theorem toNat_logicalSectors :
    (ofSectors total).logicalSectors.toNat = (ofSectors total).cover := by
  have hcover := Nat.lt_of_le_of_lt (cover_le total) total.toNat_lt
  have hproduct : (ofSectors total).logicalSectors =
    (ofSectors total).cylinders * (ofSectors total).heads * (ofSectors total).sectorsPerTrack := rfl
  unfold cover at hcover ⊢
  rw [hproduct, UInt32.mul_assoc, UInt32.toNat_mul, UInt32.toNat_mul, Nat.mul_mod_mod,
    Nat.mod_eq_of_lt hcover]

end Geometry

namespace Identify

/-! ## Capacities -/

/-- The capacity that an answer advertises by its cylinders, heads and sectors per track. -/
def cylinderCapacity (answer : List UInt16) : Nat :=
  (answer.getD 1 0).toNat * (answer.getD 3 0).toNat * (answer.getD 6 0).toNat

/-- The capacity that an answer advertises in sectors. -/
def sectorCapacity (answer : List UInt16) : Nat :=
  (answer.getD 60 0).toNat + 2 ^ 16 * (answer.getD 61 0).toNat

variable (cid : Cid) (geometry : Geometry) (rest : List UInt16)

theorem getElem?_words {i : Nat} (hi : i < size) :
    (words cid geometry ++ rest)[i]? = some (word cid geometry i) := by
  have hlength : i < (words cid geometry).length := by rwa [length_words]
  rw [List.getElem?_append_left hlength, words, List.getElem?_map, List.getElem?_range hi]
  rfl

theorem getD_words {i : Nat} (hi : i < size) :
    (words cid geometry ++ rest).getD i 0 = word cid geometry i := by
  rw [List.getD_eq_getElem?_getD, getElem?_words _ _ _ hi]
  rfl

/-- The two halves of the number of sectors put it together again. -/
theorem sectorCapacity_words :
    sectorCapacity (words cid geometry ++ rest) = (advertised geometry).toNat := by
  unfold sectorCapacity
  rw [getD_words _ _ _ (by decide), getD_words _ _ _ (by decide)]
  show (advertised geometry).toUInt16.toNat + 2 ^ 16 * (advertised geometry >>> 16).toUInt16.toNat = _
  have hlt := (advertised geometry).toNat_lt
  rw [UInt32.toNat_toUInt16, UInt32.toNat_toUInt16, UInt32.toNat_shiftRight]
  show _ + 2 ^ 16 * (((advertised geometry).toNat >>> 16) % 2 ^ 16) = _
  rw [Nat.shiftRight_eq_div_pow]
  omega

theorem toNat_advertised :
    (advertised geometry).toNat = min geometry.logicalSectors.toNat 0x0FFFFFFF :=
  UInt32.toNat_min _ _

theorem cylinderCapacity_words {heads track : Nat} (hheads : geometry.heads.toNat = heads)
    (htrack : geometry.sectorsPerTrack.toNat = track) (hheads' : heads < 2 ^ 16)
    (htrack' : track < 2 ^ 16) :
    cylinderCapacity (words cid geometry ++ rest) =
      min geometry.cylinders.toNat 0xFFFF * (heads * track) := by
  unfold cylinderCapacity
  rw [getD_words _ _ _ (by decide), getD_words _ _ _ (by decide), getD_words _ _ _ (by decide)]
  show (min geometry.cylinders 0xFFFF).toUInt16.toNat * geometry.heads.toUInt16.toNat *
    geometry.sectorsPerTrack.toUInt16.toNat = _
  have hcut : (min geometry.cylinders 0xFFFF).toNat = min geometry.cylinders.toNat 0xFFFF :=
    UInt32.toNat_min _ _
  rw [UInt32.toNat_toUInt16, UInt32.toNat_toUInt16, UInt32.toNat_toUInt16, hcut, hheads, htrack,
    Nat.mod_eq_of_lt hheads', Nat.mod_eq_of_lt htrack', Nat.mod_eq_of_lt (by omega), Nat.mul_assoc]

/-! ## Order -/

variable (total : UInt32)

/-- The cylinders that are cut off are more than the sectors that are. -/
theorem cylinderCapacity_le :
    cylinderCapacity (words cid (Geometry.ofSectors total) ++ rest) ≤
      sectorCapacity (words cid (Geometry.ofSectors total) ++ rest) := by
  obtain ⟨hheads, htrack⟩ := Geometry.bounds_ofSectors total
  rw [sectorCapacity_words, toNat_advertised, Geometry.toNat_logicalSectors,
    cylinderCapacity_words _ _ _ rfl rfl (by omega) (by omega)]
  refine Nat.le_min.mpr ⟨Nat.mul_le_mul_right _ (Nat.min_le_left _ _), ?_⟩
  calc min (Geometry.ofSectors total).cylinders.toNat 0xFFFF *
        ((Geometry.ofSectors total).heads.toNat * (Geometry.ofSectors total).sectorsPerTrack.toNat)
      ≤ 0xFFFF * (16 * 255) := Nat.mul_le_mul (Nat.min_le_right _ _) (Nat.mul_le_mul hheads htrack)
    _ ≤ 0x0FFFFFFF := by decide

theorem sectorCapacity_le :
    sectorCapacity (words cid (Geometry.ofSectors total) ++ rest) ≤ min total.toNat 0x0FFFFFFF := by
  rw [sectorCapacity_words, toNat_advertised, Geometry.toNat_logicalSectors]
  exact Nat.le_min.mpr ⟨Nat.le_trans (Nat.min_le_left _ _) (Geometry.cover_le total),
    Nat.min_le_right _ _⟩

end Identify

end SpiDisk
