import SpiDisk.Proofs.Register.Field

/-!
# `SpiDisk.Proofs.Register.Mask` — which bits of a register its fields cover

A field covers the bits of its mask. To read it is to shift the image down and to keep the width's low
bits; to write it is to replace the bits of the mask and no others. An image that is assembled from fields
apart from each other is what writing them one by one makes of a blank one. So an image that is taken apart
field by field and assembled again is the image under the mask of the fields: what lies between them is
lost and all else is kept.

## Contents
- **Bytes.** `Image.toBytes_ofBytes`: sixteen bytes are their image.
- **One field.** `Field.mask`, `Field.write`, and what a value read from a field comes to in a word.
- **Many fields.** `Image.mask`, `Image.clear`, `Image.assemble_eq_write` and `Image.assemble_read`.
-/

namespace SpiDisk

/-! ## Bytes -/

/-- **Sixteen bytes are their image.** -/
theorem Image.toBytes_ofBytes {bytes : List UInt8} (h : bytes.length = 16) :
    (ofBytes bytes).toBytes = bytes := by
  apply List.ext_getElem?
  intro i
  by_cases hi : i < 16
  · have himage : (ofBytes bytes).toBytes[i]? =
        some ⟨(ofBytes bytes).extractLsb' (8 * (15 - i)) 8⟩ := by
      unfold toBytes
      rw [List.getElem?_map, List.getElem?_range hi]
      rfl
    have hbyte : bytes.reverse[15 - i]? = bytes[i]? := by
      rw [List.getElem?_reverse (by omega), h]
      exact congrArg (bytes[·]?) (by omega)
    obtain ⟨byte, hsome⟩ : ∃ byte, bytes[i]? = some byte := ⟨_, List.getElem?_eq_getElem (by omega)⟩
    rw [himage, hsome, Option.some_inj]
    apply UInt8.toBitVec_inj.mp
    apply BitVec.eq_of_getLsbD_eq
    intro j hj
    have hdiv : (8 * (15 - i) + j) / 8 = 15 - i := by omega
    have hmod : (8 * (15 - i) + j) % 8 = j := by omega
    rw [BitVec.getLsbD_extractLsb', getLsbD_ofBytes _ (by omega), hdiv, hmod, hbyte, hsome]
    simp [hj]
  · rw [List.getElem?_eq_none (by rw [length_toBytes]; omega), List.getElem?_eq_none (by omega)]

/-! ## One field -/

namespace Field

/-- Reading a field shifts the image down and keeps the width's low bits. -/
theorem read_eq_shiftRight (field : Field) (image : Image) :
    field.read image = (image.toNat >>> field.offset) % 2 ^ field.width :=
  BitVec.extractLsb'_toNat ..

/-- The bits of a field. -/
def mask (field : Field) : Image :=
  (BitVec.allOnes field.width).setWidth 128 <<< field.offset

/-- Replace the bits of a field, and no others, by the low bits of a value. -/
def write (field : Field) (value : Nat) (image : Image) : Image :=
  image &&& ~~~field.mask ||| field.place value

theorem getLsbD_mask (field : Field) {i : Nat} (hi : i < 128) :
    field.mask.getLsbD i =
      (decide (field.offset ≤ i) && decide (i - field.offset < field.width)) := by
  unfold mask
  rw [BitVec.getLsbD_shiftLeft, BitVec.getLsbD_setWidth, BitVec.getLsbD_allOnes]
  have hshift : i - field.offset < 128 := by omega
  by_cases hoffset : field.offset ≤ i
  · simp [hi, hshift, hoffset]
  · simp [hi, hoffset, Nat.lt_of_not_le hoffset]

/-- What was read from a field is put back by placing it there. -/
theorem place_read (field : Field) (image : Image) :
    field.place (field.read image) = image &&& field.mask := by
  apply BitVec.eq_of_getLsbD_eq
  intro i hi
  rw [BitVec.getLsbD_and, getLsbD_place _ _ hi, getLsbD_mask _ hi, testBit_read]
  by_cases hoffset : field.offset ≤ i
  · have hself : field.offset + (i - field.offset) = i := by omega
    rw [hself]
    cases image.getLsbD i <;> cases decide (i - field.offset < field.width) <;> simp
  · simp [hoffset]

/-- A field that is placed leaves out the mask of every other one. -/
theorem place_and_mask {field other : Field} (h : field.Apart other) (value : Nat) :
    field.place value &&& other.mask = 0 := by
  apply BitVec.eq_of_getLsbD_eq
  intro i hi
  have hblank : (0 : Image).getLsbD i = false := BitVec.getLsbD_zero
  rw [BitVec.getLsbD_and, hblank, getLsbD_mask _ hi]
  by_cases hcovered : other.offset ≤ i ∧ i < other.offset + other.width
  · rw [getLsbD_place_apart h value hcovered.1 hcovered.2 hi, Bool.false_and]
  · have hmask : (decide (other.offset ≤ i) && decide (i - other.offset < other.width)) = false := by
      rw [Bool.and_eq_false_iff, decide_eq_false_iff_not, decide_eq_false_iff_not]
      omega
    rw [hmask, Bool.and_false]

/-! ### Values in words -/

theorem toNat_toUInt8_read {field : Field} (hwidth : field.width ≤ 8) (image : Image) :
    (field.read image).toUInt8.toNat = field.read image := by
  have hbound : 2 ^ field.width ≤ 2 ^ 8 := Nat.pow_le_pow_right (by decide) hwidth
  exact Nat.mod_eq_of_lt (Nat.lt_of_lt_of_le (field.read_lt image) hbound)

theorem toNat_toUInt16_read {field : Field} (hwidth : field.width ≤ 16) (image : Image) :
    (field.read image).toUInt16.toNat = field.read image := by
  have hbound : 2 ^ field.width ≤ 2 ^ 16 := Nat.pow_le_pow_right (by decide) hwidth
  exact Nat.mod_eq_of_lt (Nat.lt_of_lt_of_le (field.read_lt image) hbound)

theorem toNat_toUInt32_read {field : Field} (hwidth : field.width ≤ 32) (image : Image) :
    (field.read image).toUInt32.toNat = field.read image := by
  have hbound : 2 ^ field.width ≤ 2 ^ 32 := Nat.pow_le_pow_right (by decide) hwidth
  exact Nat.mod_eq_of_lt (Nat.lt_of_lt_of_le (field.read_lt image) hbound)

theorem toUInt8_read_lt (field : Field) (image : Image) :
    (field.read image).toUInt8.toNat < 2 ^ field.width :=
  Nat.lt_of_le_of_lt (Nat.mod_le ..) (field.read_lt image)

theorem toUInt16_read_lt (field : Field) (image : Image) :
    (field.read image).toUInt16.toNat < 2 ^ field.width :=
  Nat.lt_of_le_of_lt (Nat.mod_le ..) (field.read_lt image)

theorem toUInt32_read_lt (field : Field) (image : Image) :
    (field.read image).toUInt32.toNat < 2 ^ field.width :=
  Nat.lt_of_le_of_lt (Nat.mod_le ..) (field.read_lt image)

theorem toNat_isSet {field : Field} (hwidth : field.width = 1) (image : Image) :
    (field.isSet image).toNat = field.read image := by
  have hbound := field.read_lt image
  rw [hwidth] at hbound
  unfold isSet
  rcases (by omega : field.read image = 0 ∨ field.read image = 1) with hread | hread
  · rw [hread]
    rfl
  · rw [hread]
    rfl

end Field

/-- The low bits of a byte. -/
def lowBits (width : Nat) (byte : UInt8) : UInt8 :=
  (byte.toNat % 2 ^ width).toUInt8

theorem toNat_lowBits (width : Nat) (byte : UInt8) :
    (lowBits width byte).toNat = byte.toNat % 2 ^ width :=
  Nat.mod_eq_of_lt (Nat.lt_of_le_of_lt (Nat.mod_le ..) byte.toNat_lt)

/-- A byte is its low bits if it has no others. -/
theorem lowBits_eq_self_iff {width : Nat} {byte : UInt8} :
    lowBits width byte = byte ↔ byte.toNat < 2 ^ width := by
  rw [← UInt8.toNat_inj, toNat_lowBits]
  exact Nat.mod_eq_iff_lt (Nat.ne_of_gt (Nat.two_pow_pos width))

/-- A field gives back the low bits of the byte that was put there. -/
theorem Field.toUInt8_read_assemble {parts : List (Field × Nat)}
    (hlayout : Image.IsLayout (parts.map Prod.fst)) {field : Field} {byte : UInt8}
    (hmem : (field, byte.toNat) ∈ parts) :
    (field.read (Image.assemble parts)).toUInt8 = lowBits field.width byte := by
  rw [Field.read_assemble hlayout hmem]
  rfl

/-- A field of eight bits gives back its byte. -/
theorem Field.byte_read_assemble {parts : List (Field × Nat)}
    (hlayout : Image.IsLayout (parts.map Prod.fst)) {field : Field} (hwidth : field.width = 8)
    {byte : UInt8} (hmem : (field, byte.toNat) ∈ parts) :
    (field.read (Image.assemble parts)).toUInt8 = byte := by
  rw [Field.toUInt8_read_assemble hlayout hmem, hwidth]
  exact lowBits_eq_self_iff.mpr byte.toNat_lt

theorem toUInt16_mod_eq_self_iff {width : Nat} {word : UInt16} :
    (word.toNat % 2 ^ width).toUInt16 = word ↔ word.toNat < 2 ^ width := by
  have hfits : word.toNat % 2 ^ width < 2 ^ 16 := Nat.lt_of_le_of_lt (Nat.mod_le ..) word.toNat_lt
  rw [← UInt16.toNat_inj, UInt16.toNat_ofNat_of_lt' hfits]
  exact Nat.mod_eq_iff_lt (Nat.ne_of_gt (Nat.two_pow_pos width))

theorem toUInt32_mod_eq_self_iff {width : Nat} {word : UInt32} :
    (word.toNat % 2 ^ width).toUInt32 = word ↔ word.toNat < 2 ^ width := by
  have hfits : word.toNat % 2 ^ width < 2 ^ 32 := Nat.lt_of_le_of_lt (Nat.mod_le ..) word.toNat_lt
  rw [← UInt32.toNat_inj, UInt32.toNat_ofNat_of_lt' hfits]
  exact Nat.mod_eq_iff_lt (Nat.ne_of_gt (Nat.two_pow_pos width))

/-! ## Many fields -/

namespace Image

/-- The bits of some fields. -/
def mask (fields : List Field) : Image :=
  fields.foldr (fun field image => field.mask ||| image) 0

/-- The image without the bits of some fields. -/
def clear (fields : List Field) (image : Image) : Image :=
  image &&& ~~~mask fields

theorem assemble_append (parts others : List (Field × Nat)) :
    assemble (parts ++ others) = assemble parts ||| assemble others := by
  induction parts with
  | nil => exact (BitVec.zero_or ..).symm
  | cons part parts ih =>
    show part.1.place part.2 ||| assemble (parts ++ others) =
      part.1.place part.2 ||| assemble parts ||| assemble others
    rw [ih, BitVec.or_assoc]

/-- What was read from the fields of an image makes up the image as far as they cover it. -/
theorem assemble_read (fields : List Field) (image : Image) :
    assemble (fields.map fun field => (field, field.read image)) = image &&& mask fields := by
  induction fields with
  | nil => exact (BitVec.and_zero ..).symm
  | cons field fields ih =>
    show field.place (field.read image) ||| assemble (fields.map _) =
      image &&& (field.mask ||| mask fields)
    rw [ih, field.place_read, BitVec.and_or_distrib_left]

/-- What is assembled of fields that are apart from another one has none of its bits. -/
theorem assemble_and_mask {parts : List (Field × Nat)} {field : Field}
    (h : ∀ other ∈ parts.map Prod.fst, field.Apart other) : assemble parts &&& field.mask = 0 := by
  induction parts with
  | nil => exact BitVec.zero_and
  | cons part parts ih =>
    have hpart : part.1.Apart field := Or.symm (h part.1 (List.mem_cons_self ..))
    have hparts : assemble parts &&& field.mask = 0 :=
      ih fun other hmem => h other (List.mem_cons_of_mem _ hmem)
    show (part.1.place part.2 ||| assemble parts) &&& field.mask = 0
    rw [BitVec.and_or_distrib_right, Field.place_and_mask hpart, hparts]
    exact BitVec.or_self

/-- **Assembling is writing,** field by field into a blank image, if no two fields overlap. -/
theorem assemble_eq_write {parts : List (Field × Nat)} (h : (parts.map Prod.fst).Pairwise Field.Apart) :
    assemble parts = parts.foldr (fun part image => part.1.write part.2 image) 0 := by
  induction parts with
  | nil => rfl
  | cons part parts ih =>
    rw [List.map_cons, List.pairwise_cons] at h
    have hkept : assemble parts &&& ~~~part.1.mask = assemble parts := by
      have hall : assemble parts = assemble parts &&& part.1.mask ||| assemble parts &&& ~~~part.1.mask := by
        rw [← BitVec.and_or_distrib_left, BitVec.or_not_self, BitVec.and_allOnes]
      rw [assemble_and_mask h.1] at hall
      exact (hall.trans BitVec.zero_or).symm
    rw [List.foldr_cons, ← ih h.2]
    calc assemble (part :: parts)
        = part.1.place part.2 ||| assemble parts := rfl
      _ = assemble parts &&& ~~~part.1.mask ||| part.1.place part.2 := by rw [hkept, BitVec.or_comm]

/-- A register whose lowest bit is one gives up only its `reserved` bits when it is taken apart into its
    fields and assembled again. -/
theorem assemble_read_or_one {fields reserved : List Field}
    (hcover : mask fields = ~~~(mask reserved ||| 1)) (image : Image) :
    assemble (fields.map fun field => (field, field.read image)) ||| 1 = image.clear reserved ||| 1 := by
  rw [assemble_read, hcover, BitVec.not_or, ← BitVec.and_assoc]
  apply BitVec.eq_of_getLsbD_eq
  intro i hi
  rw [BitVec.getLsbD_or, BitVec.getLsbD_or, BitVec.getLsbD_and, BitVec.getLsbD_not, decide_eq_true hi,
    Bool.true_and]
  unfold clear
  cases BitVec.getLsbD (image &&& ~~~mask reserved) i <;> cases (1 : Image).getLsbD i <;> rfl

end Image

end SpiDisk
