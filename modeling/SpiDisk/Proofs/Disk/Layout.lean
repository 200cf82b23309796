import Mathlib.Data.List.Find
import SpiDisk.Proofs.Disk.Geometry

/-!
# `SpiDisk.Proofs.Disk.Layout` — the layout that the search comes to, and how it changes with the disk

The candidates are tried in their order, and each is accepted if it leaves the disk fewer cylinders than a
bound: 1024 for a small disk and 65536 for any other. The tiers of the check in between come to nothing, for
every one of them is within the last. So the search is a first fit by the size of a cylinder alone, and a disk
that no candidate fits has the last of them all the same.

A larger disk presents no less than a smaller one, although at some sizes the search moves on to a layout with
larger cylinders, of which more may be given up. What the layouts before it covered at most is reached by the
new one on the first disk that it gets, and that is a matter of the table alone (`climbs_candidates`). At the
step from 127 to 255 sectors per track there is nothing to spare.

## Contents
- **First fit.** `Geometry.fits_iff`, `Geometry.firstFit` and `Geometry.choose_eq`.
- **The layout.** `Geometry.LaidOut` and `Geometry.laidOut_ofSectors`.
- **Growth.** `Geometry.climbs`, `Geometry.covered_firstFit_mono` and `Geometry.logicalSectors_mono`.
-/

namespace SpiDisk

namespace Geometry

/-! ## First fit -/

/-- A disk of `total` sectors is to have fewer cylinders than this. -/
def cylinderBound (total : UInt32) : Nat :=
  if total ≤ smallDisk then 1024 else 65536

theorem cylinderBound_eq (total : UInt32) :
    cylinderBound total = (if total.toNat ≤ 1048576 then 1023 else 65535) + 1 := by
  have hsmall : total ≤ smallDisk ↔ total.toNat ≤ 1048576 := UInt32.le_iff_toNat_le
  unfold cylinderBound
  simp only [hsmall]
  split
  · rfl
  · rfl

/-- **The check of a candidate** asks for fewer cylinders than the bound, whatever the heads. -/
theorem fits_iff {total : UInt32} {layout : UInt32 × UInt32} (hmem : layout ∈ candidates) :
    fits total (total / (layout.2 * layout.1)) layout.2 = true ↔
      total.toNat < cylinderBound total * cylinderSize layout := by
  have hquotient := toNat_quotient total hmem
  have hlt (bound : Nat) : total.toNat < bound * cylinderSize layout ↔
      (total / (layout.2 * layout.1)).toNat < bound := by
    rw [hquotient, Nat.div_lt_iff_lt_mul (candidate_bounds layout hmem).1]
  rw [hlt]
  unfold fits cylinderBound
  by_cases hsmall : total ≤ smallDisk
  · simp only [hsmall, if_true, decide_eq_true_eq, UInt32.le_iff_toNat_le]
    exact Nat.lt_succ_iff.symm
  · -- the two tiers with fewer cylinders are within the one with the most
    simp only [hsmall, if_false, Bool.or_eq_true, Bool.and_eq_true, decide_eq_true_eq,
      UInt32.lt_iff_toNat_lt, UInt32.le_iff_toNat_le, ge_iff_le]
    show (_ < 16383 ∨ _ < 32767 ∧ _) ∨ _ ≤ 65535 ↔ _
    omega

/-- The first layout of a list that leaves a disk fewer cylinders than a bound, or the last candidate. -/
def firstFit (bound total : Nat) (layouts : List (UInt32 × UInt32)) : UInt32 × UInt32 :=
  (layouts.find? fun layout => total < bound * cylinderSize layout).getD (255, 16)

theorem choose_eq (total : UInt32) :
    choose total = firstFit (cylinderBound total) total.toNat candidates := by
  unfold choose firstFit
  congr 1
  apply List.find?_congr
  intro layout hmem
  rw [Bool.eq_iff_iff, decide_eq_true_iff]
  exact fits_iff hmem

section FirstFit

variable {bound total : Nat} {layout : UInt32 × UInt32}

theorem firstFit_cons_of_lt (h : total < bound * cylinderSize layout)
    (rest : List (UInt32 × UInt32)) : firstFit bound total (layout :: rest) = layout := by
  unfold firstFit
  rw [List.find?_cons_of_pos]
  · rfl
  · simpa using h

theorem firstFit_cons_of_le (h : bound * cylinderSize layout ≤ total)
    (rest : List (UInt32 × UInt32)) :
    firstFit bound total (layout :: rest) = firstFit bound total rest := by
  unfold firstFit
  rw [List.find?_cons_of_neg]
  simpa using h

end FirstFit

/-! ## The layout -/

/-- A layout in numbers: sectors per track, and heads. -/
def numbers (layout : UInt32 × UInt32) : Nat × Nat :=
  (layout.1.toNat, layout.2.toNat)

/-- The layouts that are tried. -/
def Tried (layout : Nat × Nat) : Prop :=
  layout.1 ∈ [63, 127, 255] ∧ 4 ≤ layout.2 ∧ layout.2 ≤ 16

/-- Whether one layout is tried before another. -/
def TriedBefore (layout other : Nat × Nat) : Prop :=
  layout.1 < other.1 ∨ layout.1 = other.1 ∧ layout.2 < other.2

instance (layout other : Nat × Nat) : Decidable (TriedBefore layout other) :=
  inferInstanceAs (Decidable (_ ∨ _))

theorem TriedBefore.asymm {layout other : Nat × Nat} (h : TriedBefore layout other) :
    ¬ TriedBefore other layout := by
  unfold TriedBefore at h ⊢
  omega

theorem mem_candidates_iff {layout : Nat × Nat} :
    layout ∈ candidates.map numbers ↔ Tried layout := by
  have htable : candidates.map numbers =
      [63, 127, 255].flatMap fun track => (List.range' 4 13).map fun heads => (track, heads) := by
    decide
  obtain ⟨track, heads⟩ := layout
  rw [htable]
  simp only [List.mem_flatMap, List.mem_map, List.mem_range'_1, Prod.mk.injEq, Tried]
  constructor
  · rintro ⟨_, htrack, _, hheads, rfl, rfl⟩
    exact ⟨htrack, by omega, by omega⟩
  · rintro ⟨htrack, hleast, hmost⟩
    exact ⟨track, htrack, heads, by omega, rfl, rfl⟩

theorem tried_choose (total : UInt32) : Tried (numbers (choose total)) :=
  mem_candidates_iff.mp (List.mem_map_of_mem (choose_mem total))

theorem pairwise_candidates : (candidates.map numbers).Pairwise TriedBefore := by
  decide +kernel

/-- No candidate has larger cylinders than the last. -/
theorem cylinderSize_le {layout : UInt32 × UInt32} (hmem : layout ∈ candidates) :
    cylinderSize layout ≤ 16 * 255 := by
  obtain ⟨-, hheads, htrack⟩ := candidate_bounds layout hmem
  exact Nat.mul_le_mul hheads htrack

section Choice

variable {total : UInt32}

/-- **A disk of which a layout has few enough cylinders** gets the first such layout. -/
theorem choose_of_fits (h : total.toNat < 65536 * 16 * 255) :
    total.toNat < cylinderBound total * cylinderSize (choose total) ∧
      ∃ before after, candidates = before ++ choose total :: after ∧
        ∀ layout ∈ before, cylinderBound total * cylinderSize layout ≤ total.toNat := by
  rw [choose_eq]
  unfold firstFit
  cases hfound : candidates.find? fun layout =>
    total.toNat < cylinderBound total * cylinderSize layout with
  | none =>
    -- the last candidate is enough for any disk of this size
    have hlast := List.find?_eq_none.mp hfound (255, 16) (by decide)
    have hsize : cylinderSize (255, 16) = 16 * 255 := rfl
    rw [decide_eq_true_iff, hsize, cylinderBound_eq] at hlast
    split at hlast
    · omega
    · omega
  | some layout =>
    obtain ⟨hfits, before, after, htable, hbefore⟩ := List.find?_eq_some_iff_append.mp hfound
    refine ⟨of_decide_eq_true hfits, before, after, htable, fun other hother => ?_⟩
    simpa using hbefore other hother

/-- **A disk too big for every layout** gets the last one. -/
theorem choose_of_oversized (h : 65536 * 16 * 255 ≤ total.toNat) : choose total = (255, 16) := by
  rw [choose_eq]
  unfold firstFit
  rw [List.find?_eq_none.mpr]
  · rfl
  intro layout hmem
  have hlarge : cylinderBound total = 65536 := by
    rw [cylinderBound_eq, if_neg (by omega)]
  have hsize := cylinderSize_le hmem
  rw [decide_eq_true_iff, hlarge]
  omega

/-- A candidate leaves the disk more cylinders than it may have, if it leaves it as many as the bound. -/
theorem exceeds_iff {layout : Nat × Nat} (htried : Tried layout) :
    (if total.toNat ≤ 1048576 then 1023 else 65535) < total.toNat / (layout.2 * layout.1) ↔
      cylinderBound total * (layout.2 * layout.1) ≤ total.toNat := by
  obtain ⟨candidate, hmem, rfl⟩ := List.mem_map.mp (mem_candidates_iff.mpr htried)
  have hpos : 0 < (numbers candidate).2 * (numbers candidate).1 := (candidate_bounds _ hmem).1
  rw [← Nat.le_div_iff_mul_le hpos]
  rw [cylinderBound_eq]
  exact Nat.lt_iff_add_one_le

/-- What was tried before the layout that is taken leaves the disk too many cylinders. -/
theorem exceeds_of_triedBefore {layout : Nat × Nat} (htried : Tried layout)
    (hbefore : TriedBefore layout (numbers (choose total))) :
    cylinderBound total * (layout.2 * layout.1) ≤ total.toNat := by
  obtain ⟨candidate, hmem, rfl⟩ := List.mem_map.mp (mem_candidates_iff.mpr htried)
  by_cases hfits : total.toNat < 65536 * 16 * 255
  · obtain ⟨-, before, after, htable, hexceeds⟩ := choose_of_fits hfits
    have horder := pairwise_candidates
    rw [htable, List.map_append, List.map_cons, List.pairwise_append] at horder
    obtain ⟨-, hbehind, -⟩ := horder
    rw [htable, List.mem_append, List.mem_cons] at hmem
    rcases hmem with hmem | rfl | hmem
    · exact hexceeds candidate hmem
    · exact absurd hbefore hbefore.asymm
    · -- it would have been tried behind the layout that is taken
      have hafter := (List.pairwise_cons.mp hbehind).1 _ (List.mem_map_of_mem hmem)
      exact absurd hbefore hafter.asymm
  · have hsize : (numbers candidate).2 * (numbers candidate).1 ≤ 16 * 255 := cylinderSize_le hmem
    have hbound : cylinderBound total = 65536 := by
      rw [cylinderBound_eq, if_neg (by omega)]
    rw [hbound]
    omega

end Choice

/-- A geometry as the search leaves it over a disk of `total` sectors. -/
structure LaidOut (total : Nat) (geometry : Geometry) : Prop where
  heads : 4 ≤ geometry.heads.toNat ∧ geometry.heads.toNat ≤ 16
  track : geometry.sectorsPerTrack.toNat ∈ [63, 127, 255]
  /-- Neither product on the way to the number of sectors wraps. -/
  unwrapped : geometry.cylinders.toNat * geometry.heads.toNat < 2 ^ 32 ∧
    geometry.cylinders.toNat * geometry.heads.toNat * geometry.sectorsPerTrack.toNat < 2 ^ 32
  logical : geometry.logicalSectors.toNat =
    geometry.cylinders.toNat * geometry.heads.toNat * geometry.sectorsPerTrack.toNat
  within : geometry.logicalSectors.toNat ≤ total
  /-- Less than one cylinder is lost. -/
  loss : total - geometry.logicalSectors.toNat <
    geometry.heads.toNat * geometry.sectorsPerTrack.toNat
  small : total ≤ 1048576 → geometry.cylinders.toNat ≤ 1023
  large : 1048576 < total → total < 65536 * 16 * 255 → geometry.cylinders.toNat ≤ 65535
  /-- Every layout that was tried before leaves too many cylinders. -/
  first : ∀ layout, Tried layout →
    TriedBefore layout (geometry.sectorsPerTrack.toNat, geometry.heads.toNat) →
      (if total ≤ 1048576 then 1023 else 65535) < total / (layout.2 * layout.1)
  /-- The last layout is taken with too many cylinders on these disks and on no others. -/
  fallback : geometry.heads.toNat = 16 ∧ geometry.sectorsPerTrack.toNat = 255 ∧
    65535 < geometry.cylinders.toNat ↔ 65536 * 16 * 255 ≤ total
  /-- They are those on which every layout that is tried leaves too many. -/
  exhausted : (∀ layout, Tried layout →
      (if total ≤ 1048576 then 1023 else 65535) < total / (layout.2 * layout.1)) ↔
    65536 * 16 * 255 ≤ total

/-- The last layout is the only one that can be taken with too many cylinders. -/
theorem oversized_iff (total : UInt32) :
    (choose total = (255, 16) ∧ 65535 < total.toNat / cylinderSize (choose total)) ↔
      65536 * 16 * 255 ≤ total.toNat := by
  constructor
  · rintro ⟨hlast, hmany⟩
    rw [hlast] at hmany
    have hmany : 65535 < total.toNat / (16 * 255) := hmany
    omega
  · intro hoversized
    have hlast := choose_of_oversized hoversized
    refine ⟨hlast, ?_⟩
    rw [hlast]
    show 65535 < total.toNat / (16 * 255)
    omega

/-- Every layout leaves too many cylinders on the disks that are too big, and on no others. -/
theorem exhausted_iff (total : UInt32) :
    (∀ layout, Tried layout →
      (if total.toNat ≤ 1048576 then 1023 else 65535) < total.toNat / (layout.2 * layout.1)) ↔
        65536 * 16 * 255 ≤ total.toNat := by
  constructor
  · intro hall
    have hlast := hall (255, 16) ⟨by decide, by decide, by decide⟩
    have hlast : (if total.toNat ≤ 1048576 then 1023 else 65535) < total.toNat / (16 * 255) := hlast
    split at hlast
    · omega
    · omega
  · intro hoversized layout htried
    obtain ⟨candidate, hmem, rfl⟩ := List.mem_map.mp (mem_candidates_iff.mpr htried)
    have hsize : (numbers candidate).2 * (numbers candidate).1 ≤ 16 * 255 := cylinderSize_le hmem
    rw [exceeds_iff htried, cylinderBound_eq, if_neg (by omega)]
    omega

/-- A disk that is not too big has fewer cylinders than the bound. -/
theorem cylinders_lt_bound {total : UInt32} (h : total.toNat < 65536 * 16 * 255) :
    (ofSectors total).cylinders.toNat < cylinderBound total := by
  rw [toNat_cylinders]
  exact Nat.div_lt_of_lt_mul (Nat.mul_comm _ _ ▸ (choose_of_fits h).1)

/-- What does not fill a cylinder is less than one. -/
theorem loss_lt (total : UInt32) :
    total.toNat - (ofSectors total).cover < cylinderSize (choose total) := by
  have hsplit := Nat.div_add_mod' total.toNat (cylinderSize (choose total))
  have hlt := Nat.mod_lt total.toNat (candidate_bounds _ (choose_mem total)).1
  rw [cover_eq]
  omega

/-- **The layout of every disk.** The layout is the first of those that are tried in which the disk has few
    enough cylinders: at most 1023 if it is small, and at most 65535 if it is not; the last one is taken, with
    more than that, for the disks that are too big for all of them, and for no others. The sectors of its
    cylinders are counted without wrapping, are on the disk, and leave out less than one cylinder of it. -/
theorem laidOut_ofSectors (total : UInt32) : LaidOut total.toNat (ofSectors total) := by
  have hlogical := toNat_logicalSectors total
  have hproduct : (ofSectors total).cylinders.toNat * (ofSectors total).heads.toNat *
      (ofSectors total).sectorsPerTrack.toNat = (ofSectors total).cover := Nat.mul_assoc _ _ _
  obtain ⟨htrack, hheads⟩ := tried_choose total
  constructor
  case heads => exact hheads
  case track => exact htrack
  case unwrapped =>
    have hcover := Nat.lt_of_le_of_lt (cover_le total) total.toNat_lt
    have hpos : 0 < (ofSectors total).sectorsPerTrack.toNat :=
      Nat.pos_of_mul_pos_left (candidate_bounds _ (choose_mem total)).1
    rw [hproduct]
    refine ⟨?_, hcover⟩
    calc (ofSectors total).cylinders.toNat * (ofSectors total).heads.toNat
        ≤ (ofSectors total).cylinders.toNat * (ofSectors total).heads.toNat *
            (ofSectors total).sectorsPerTrack.toNat := Nat.le_mul_of_pos_right _ hpos
      _ < 2 ^ 32 := hproduct ▸ hcover
  case logical => rw [hlogical, hproduct]
  case within => exact hlogical ▸ cover_le total
  case loss => exact hlogical ▸ loss_lt total
  case small =>
    intro hsmall
    have hfits : total.toNat < 65536 * 16 * 255 := by omega
    have hlt := cylinders_lt_bound hfits
    rw [cylinderBound_eq, if_pos hsmall] at hlt
    exact Nat.le_of_lt_succ hlt
  case large =>
    intro hlarge hfits
    have hlt := cylinders_lt_bound hfits
    rw [cylinderBound_eq, if_neg (by omega)] at hlt
    exact Nat.le_of_lt_succ hlt
  case first =>
    intro layout htried hbefore
    exact (exceeds_iff htried).mpr (exceeds_of_triedBefore htried hbefore)
  case fallback =>
    have hlast : choose total = (255, 16) ↔ (ofSectors total).heads.toNat = 16 ∧
        (ofSectors total).sectorsPerTrack.toNat = 255 := by
      rw [Prod.ext_iff, ← UInt32.toNat_inj, ← UInt32.toNat_inj, and_comm]
      rfl
    rw [← oversized_iff, hlast, ← toNat_cylinders, and_assoc]
  case exhausted => exact exhausted_iff total

/-! ## Growth -/

/-- The sectors that a disk of `total` sectors presents in a layout. -/
def covered (total : Nat) (layout : UInt32 × UInt32) : Nat :=
  total / cylinderSize layout * cylinderSize layout

theorem covered_mono {a b : Nat} (h : a ≤ b) (layout : UInt32 × UInt32) :
    covered a layout ≤ covered b layout :=
  Nat.mul_le_mul_right _ (Nat.div_le_div_right h)

theorem covered_le_of_fits {bound total : Nat} {layout : UInt32 × UInt32}
    (h : total < bound * cylinderSize layout) :
    covered total layout ≤ (bound - 1) * cylinderSize layout := by
  have hfew : total / cylinderSize layout < bound :=
    Nat.div_lt_of_lt_mul (Nat.mul_comm _ _ ▸ h)
  exact Nat.mul_le_mul_right _ (Nat.le_sub_one_of_lt hfew)

/-- Whether each layout of a list, and the last candidate behind it, begins no lower than the one with the
    largest cylinders before it ends. It begins with the first disk that does not fit that one, whose cylinders
    have `largest` sectors, and that one ends with one cylinder less than the bound. -/
def climbs (bound : Nat) : Nat → List (UInt32 × UInt32) → Bool
  | largest, [] => (bound - 1) * largest ≤ covered (bound * largest) (255, 16)
  | largest, layout :: rest =>
    (bound - 1) * largest ≤ covered (bound * largest) layout &&
      climbs bound (max largest (cylinderSize layout)) rest

theorem climbs_candidates :
    climbs 1024 0 candidates = true ∧ climbs 65536 0 candidates = true := by
  decide +kernel

section Climbing

variable {bound largest : Nat} {layouts : List (UInt32 × UInt32)}

theorem climbs_cons {layout : UInt32 × UInt32} (h : climbs bound largest (layout :: layouts) = true) :
    (bound - 1) * largest ≤ covered (bound * largest) layout ∧
      climbs bound (max largest (cylinderSize layout)) layouts = true := by
  rw [climbs, Bool.and_eq_true, decide_eq_true_iff] at h
  exact h

theorem mul_max_le {size total : Nat} (hlargest : bound * largest ≤ total)
    (hsize : bound * size ≤ total) : bound * max largest size ≤ total := by
  rw [← Nat.mul_max_mul_left]
  exact Nat.max_le.mpr ⟨hlargest, hsize⟩

/-- **Floor.** A disk that no layout so far fits presents what the largest of them covered at most. -/
theorem le_covered_firstFit {total : Nat} (hclimbs : climbs bound largest layouts = true)
    (hlargest : bound * largest ≤ total) :
    (bound - 1) * largest ≤ covered total (firstFit bound total layouts) := by
  induction layouts generalizing largest with
  | nil => exact Nat.le_trans (of_decide_eq_true hclimbs) (covered_mono hlargest _)
  | cons layout rest ih =>
    obtain ⟨hfirst, hrest⟩ := climbs_cons hclimbs
    by_cases hfits : total < bound * cylinderSize layout
    · rw [firstFit_cons_of_lt hfits]
      exact Nat.le_trans hfirst (covered_mono hlargest _)
    · have hle := Nat.le_of_not_lt hfits
      rw [firstFit_cons_of_le hle]
      calc (bound - 1) * largest
          ≤ (bound - 1) * max largest (cylinderSize layout) :=
            Nat.mul_le_mul_left _ (Nat.le_max_left _ _)
        _ ≤ covered total (firstFit bound total rest) := ih hrest (mul_max_le hlargest hle)

/-- **Step and run.** A larger disk presents no less. Where both disks fit the same layout it is a matter of
    rounding, and where only the smaller one does, of the floor that it leaves for what comes behind. -/
theorem covered_firstFit_mono {a b : Nat} (hclimbs : climbs bound largest layouts = true)
    (hlargest : bound * largest ≤ a) (hab : a ≤ b) :
    covered a (firstFit bound a layouts) ≤ covered b (firstFit bound b layouts) := by
  induction layouts generalizing largest with
  | nil => exact covered_mono hab _
  | cons layout rest ih =>
    obtain ⟨-, hrest⟩ := climbs_cons hclimbs
    by_cases hfits : a < bound * cylinderSize layout
    · rw [firstFit_cons_of_lt hfits]
      by_cases hfits' : b < bound * cylinderSize layout
      · rw [firstFit_cons_of_lt hfits']
        exact covered_mono hab layout
      · have hle := Nat.le_of_not_lt hfits'
        rw [firstFit_cons_of_le hle]
        calc covered a layout
            ≤ (bound - 1) * cylinderSize layout := covered_le_of_fits hfits
          _ ≤ (bound - 1) * max largest (cylinderSize layout) :=
            Nat.mul_le_mul_left _ (Nat.le_max_right _ _)
          _ ≤ covered b (firstFit bound b rest) :=
            le_covered_firstFit hrest (mul_max_le (Nat.le_trans hlargest hab) hle)
    · have hle := Nat.le_of_not_lt hfits
      rw [firstFit_cons_of_le hle, firstFit_cons_of_le (Nat.le_trans hle hab)]
      exact ih hrest (mul_max_le hlargest hle)

end Climbing

/-- The sectors that a disk presents, by the first layout that fits it. -/
theorem toNat_logicalSectors_eq (total : UInt32) : (ofSectors total).logicalSectors.toNat =
    covered total.toNat (firstFit (cylinderBound total) total.toNat candidates) := by
  rw [toNat_logicalSectors, cover_eq, choose_eq]
  rfl

/-- Disks of one kind, small or not, present the more the larger they are. -/
theorem logicalSectors_le_of_bound {a b : UInt32} (hbound : cylinderBound a = cylinderBound b)
    (h : a ≤ b) : (ofSectors a).logicalSectors ≤ (ofSectors b).logicalSectors := by
  have hclimbs : climbs (cylinderBound b) 0 candidates = true := by
    rw [cylinderBound_eq]
    split
    · exact climbs_candidates.1
    · exact climbs_candidates.2
  rw [UInt32.le_iff_toNat_le, toNat_logicalSectors_eq, toNat_logicalSectors_eq, hbound]
  exact covered_firstFit_mono hclimbs (Nat.zero_le _) (UInt32.le_iff_toNat_le.mp h)

/-- **A larger disk never presents less than a smaller one,** whichever layouts the two have. -/
theorem logicalSectors_mono {a b : UInt32} (h : a ≤ b) :
    (ofSectors a).logicalSectors ≤ (ofSectors b).logicalSectors := by
  by_cases hbound : cylinderBound a = cylinderBound b
  · exact logicalSectors_le_of_bound hbound h
  · -- the largest small disk lies between the two, and so does the smallest that is not small
    have hle := UInt32.le_iff_toNat_le.mp h
    rw [cylinderBound_eq, cylinderBound_eq] at hbound
    have hsmall : a.toNat ≤ 1048576 := by
      refine Decidable.byContradiction fun hlarge => hbound ?_
      rw [if_neg hlarge, if_neg (by omega)]
    have hlarge : ¬ b.toNat ≤ 1048576 := by
      intro hsmall'
      exact hbound (by rw [if_pos hsmall, if_pos hsmall'])
    have hbelow : cylinderBound a = cylinderBound smallDisk := by
      rw [cylinderBound_eq, if_pos hsmall]
      rfl
    have habove : cylinderBound (smallDisk + 1) = cylinderBound b := by
      rw [cylinderBound_eq b, if_neg hlarge]
      rfl
    have hnext : smallDisk + 1 ≤ b := UInt32.le_iff_toNat_le.mpr (Nat.lt_of_not_le hlarge)
    calc (ofSectors a).logicalSectors
        ≤ (ofSectors smallDisk).logicalSectors :=
          logicalSectors_le_of_bound hbelow (UInt32.le_iff_toNat_le.mpr hsmall)
      _ ≤ (ofSectors (smallDisk + 1)).logicalSectors := by decide +kernel
      _ ≤ (ofSectors b).logicalSectors := logicalSectors_le_of_bound habove hnext

/-- The last disk with 127 sectors per track presents as much as the first with 255. -/
theorem logicalSectors_mono_level :
    (133169151 : UInt32) ≤ 133169152 ∧
      (ofSectors 133169151).sectorsPerTrack = 127 ∧ (ofSectors 133169152).sectorsPerTrack = 255 ∧
      (ofSectors 133169151).logicalSectors = 133167120 ∧
      (ofSectors 133169151).logicalSectors ≤ (ofSectors 133169152).logicalSectors ∧
      (ofSectors 133169152).logicalSectors = 133167120 := by
  have hle : (133169151 : UInt32) ≤ 133169152 := by decide
  have hpresented := logicalSectors_mono hle
  refine ⟨hle, ?_, ?_, ?_, hpresented, ?_⟩
  all_goals decide +kernel

end Geometry

end SpiDisk
