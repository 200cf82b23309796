import Mathlib.Algebra.Group.Nat.Defs
import Mathlib.Data.List.Induction
import Mathlib.Data.List.Pairwise
import SpiDisk.Register.Field

/-!
# `SpiDisk.Proofs.Register.Field` — a register gives back what was put into its fields

An image is its bytes, and an image that is assembled from fields that do not overlap holds in each of
them the value that was put there, cut to the width of the field.

## Contents
- **Images.** `Image.ofBytes_toBytes`.
- **Fields.** `Field.Apart`, `Image.IsLayout`, and `Field.read_assemble`.
-/

namespace SpiDisk

/-! ## Images -/

namespace Image

theorem ofBytes_concat (bytes : List UInt8) (byte : UInt8) :
    ofBytes (bytes ++ [byte]) = ofBytes bytes <<< 8 ||| byte.toBitVec.setWidth 128 := by
  unfold ofBytes
  rw [List.foldl_append, List.foldl_cons, List.foldl_nil]

/-- The bits of an image, byte by byte from the last one on. -/
theorem getLsbD_ofBytes (bytes : List UInt8) {i : Nat} (hi : i < 128) :
    (ofBytes bytes).getLsbD i =
      ((bytes.reverse[i / 8]?).getD 0).toBitVec.getLsbD (i % 8) := by
  induction bytes using List.reverseRecOn generalizing i with
  | nil => simp [ofBytes]
  | append_singleton bytes byte ih =>
    rw [ofBytes_concat, BitVec.getLsbD_or, BitVec.getLsbD_shiftLeft, BitVec.getLsbD_setWidth,
      List.reverse_append]
    by_cases hlow : i < 8
    · have hfirst : i / 8 = 0 := Nat.div_eq_of_lt hlow
      have hsame : i % 8 = i := Nat.mod_eq_of_lt hlow
      simp [hi, hlow, hfirst, hsame]
    · have hrest : i / 8 = (i - 8) / 8 + 1 := by omega
      have hsame : i % 8 = (i - 8) % 8 := by omega
      have hhigh : byte.toBitVec.getLsbD i = false := BitVec.getLsbD_of_ge _ _ (by omega)
      rw [ih (by omega), hrest, hsame, hhigh]
      simp [hi, hlow]

/-- **An image is its bytes.** -/
theorem ofBytes_toBytes (image : Image) : ofBytes image.toBytes = image := by
  apply BitVec.eq_of_getLsbD_eq
  intro i hi
  have hindex : 15 - i / 8 < 16 := by omega
  have hbyte : image.toBytes.reverse[i / 8]? =
      some ⟨image.extractLsb' (8 * (i / 8)) 8⟩ := by
    rw [List.getElem?_reverse (by rw [length_toBytes]; omega), length_toBytes]
    unfold toBytes
    rw [List.getElem?_map, List.getElem?_range (by omega)]
    have hoffset : 15 - (16 - 1 - i / 8) = i / 8 := by omega
    simp [hoffset]
  rw [getLsbD_ofBytes _ hi, hbyte]
  have hmod : i % 8 < 8 := Nat.mod_lt _ (by decide)
  have hsum : 8 * (i / 8) + i % 8 = i := Nat.div_add_mod i 8
  simp [hmod, hsum]

end Image

/-! ## Fields -/

namespace Field

/-- Two fields that have no bit in common. -/
def Apart (field other : Field) : Prop :=
  field.offset + field.width ≤ other.offset ∨ other.offset + other.width ≤ field.offset

instance (field other : Field) : Decidable (field.Apart other) :=
  inferInstanceAs (Decidable (_ ∨ _))

/-- Parts of an image that are apart are so both ways. -/
instance : Std.Symm fun part other : Field × Nat => part.1.Apart other.1 :=
  ⟨fun _ _ h => Or.symm h⟩

theorem read_lt (field : Field) (image : Image) : field.read image < 2 ^ field.width :=
  (image.extractLsb' field.offset field.width).isLt

theorem testBit_read (field : Field) (image : Image) (i : Nat) :
    (field.read image).testBit i =
      (decide (i < field.width) && image.getLsbD (field.offset + i)) := by
  unfold read
  rw [BitVec.testBit_toNat, BitVec.getLsbD_extractLsb']

theorem getLsbD_place (field : Field) (value : Nat) {i : Nat} (hi : i < 128) :
    (field.place value).getLsbD i =
      (decide (field.offset ≤ i) && decide (i - field.offset < field.width) &&
        value.testBit (i - field.offset)) := by
  unfold place
  rw [BitVec.getLsbD_shiftLeft, BitVec.getLsbD_setWidth, BitVec.getLsbD_ofNat]
  have hshift : i - field.offset < 128 := by omega
  by_cases hoffset : field.offset ≤ i
  · simp [hi, hshift, hoffset]
  · simp [hi, hoffset, Nat.lt_of_not_le hoffset]

/-- A field holds nothing where another one is. -/
theorem getLsbD_place_apart {field other : Field} (h : field.Apart other) (value : Nat) {i : Nat}
    (hlow : other.offset ≤ i) (hhigh : i < other.offset + other.width) (hi : i < 128) :
    (field.place value).getLsbD i = false := by
  rw [getLsbD_place field value hi]
  rcases h with hbelow | habove
  · have hpast : ¬ i - field.offset < field.width := by omega
    simp [hpast]
  · have hbefore : ¬ field.offset ≤ i := by omega
    simp [hbefore]

end Field

namespace Image

/-- The bits that are set in an assembled image are those that are set in a part. -/
theorem getLsbD_assemble (parts : List (Field × Nat)) (i : Nat) :
    (assemble parts).getLsbD i = parts.any fun part => (part.1.place part.2).getLsbD i := by
  induction parts with
  | nil => simp [assemble]
  | cons part parts ih =>
    have hcons : assemble (part :: parts) = part.1.place part.2 ||| assemble parts := rfl
    rw [hcons, BitVec.getLsbD_or, ih, List.any_cons]

/-- Fields that lie within an image and have no bits in common. -/
def IsLayout (fields : List Field) : Prop :=
  fields.Pairwise Field.Apart ∧ ∀ field ∈ fields, field.offset + field.width ≤ 128

instance (fields : List Field) : Decidable (IsLayout fields) :=
  inferInstanceAs (Decidable (_ ∧ _))

end Image

/-- **What was put into a field is read from it,** cut to its width. -/
theorem Field.read_assemble {parts : List (Field × Nat)}
    (hlayout : Image.IsLayout (parts.map Prod.fst)) {field : Field} {value : Nat}
    (hmem : (field, value) ∈ parts) :
    field.read (Image.assemble parts) = value % 2 ^ field.width := by
  obtain ⟨hapart, hinside⟩ := hlayout
  have hinside : field.offset + field.width ≤ 128 := hinside field (List.mem_map_of_mem hmem)
  have hapart : parts.Pairwise fun part other => part.1.Apart other.1 := List.pairwise_map.mp hapart
  apply Nat.eq_of_testBit_eq
  intro i
  rw [testBit_read, Nat.testBit_mod_two_pow, Image.getLsbD_assemble]
  by_cases hi : i < field.width
  · have hself : (field.place value).getLsbD (field.offset + i) = value.testBit i := by
      rw [getLsbD_place field value (by omega)]
      simp [hi]
    -- a part that is not this one is apart from it
    have hothers : ∀ part ∈ parts, (part.1.place part.2).getLsbD (field.offset + i) = true →
        value.testBit i = true := by
      intro part hpart hset
      by_cases hsame : part = (field, value)
      · rw [hsame, hself] at hset
        exact hset
      · have hapart : part.1.Apart field := hapart.forall hpart hmem hsame
        rw [getLsbD_place_apart hapart part.2 (by omega) (by omega) (by omega)] at hset
        cases hset
    have hbits : (parts.any fun part => (part.1.place part.2).getLsbD (field.offset + i)) =
        value.testBit i := by
      rw [Bool.eq_iff_iff, List.any_eq_true]
      constructor
      · rintro ⟨part, hpart, hset⟩
        exact hothers part hpart hset
      · intro hset
        exact ⟨(field, value), hmem, hself.trans hset⟩
    simp [hi, hbits]
  · simp [hi]

end SpiDisk
