import SpiDisk.Card.Cid
import SpiDisk.Proofs.Register.Mask

/-!
# `SpiDisk.Proofs.Register.Cid` — the identification register, there and back

An identification that is encoded and decoded again is what it was, as far as the register has room for
it: the year is counted from the first one on in eight bits, the month has four bits and the checksum
seven. The other way round, a register that is decoded and encoded again loses the four bits between
serial number and date, which belong to no field, and gets the one at its end.

## Contents
- **There.** `Cid.reduced`, `Cid.Fits`, and `Cid.decode_encode_reduced`.
- **Back.** `Cid.parts_ofImage`: the parts of what was decoded are the fields of the image.
- **Both.** `Cid.identification_round_trip`.
-/

namespace SpiDisk

namespace Cid

/-! ## There -/

/-- An identification as far as a register can hold it. -/
def reduced (cid : Cid) : Cid :=
  { cid with
    year := (epochYear + (cid.year.toNat - epochYear) % 2 ^ 8).toUInt16
    month := (cid.month.toNat % 2 ^ 4).toUInt8
    crc := (cid.crc.toNat % 2 ^ 7).toUInt8 }

/-- An identification that a register can hold. -/
structure Fits (cid : Cid) : Prop where
  year : epochYear ≤ cid.year.toNat ∧ cid.year.toNat < epochYear + 2 ^ 8
  month : cid.month.toNat < 2 ^ 4
  crc : cid.crc.toNat < 2 ^ 7

theorem reduced_of_fits {cid : Cid} (h : cid.Fits) : cid.reduced = cid := by
  obtain ⟨⟨hfirst, hlast⟩, hmonth, hcrc⟩ := h
  have hyear : epochYear + (cid.year.toNat - epochYear) % 2 ^ 8 = cid.year.toNat := by omega
  unfold reduced
  rw [hyear, Nat.mod_eq_of_lt hmonth, Nat.mod_eq_of_lt hcrc]
  simp

theorem fits_of_reduced {cid : Cid} (h : cid.reduced = cid) : cid.Fits where
  year := by
    have hyear := congrArg UInt16.toNat (congrArg Cid.year h)
    have hword : cid.reduced.year.toNat =
        (epochYear + (cid.year.toNat - epochYear) % 2 ^ 8) % 2 ^ 16 := UInt16.toNat_ofNat'
    unfold epochYear at hword ⊢
    omega
  month := lowBits_eq_self_iff.mp (congrArg Cid.month h)
  crc := lowBits_eq_self_iff.mp (congrArg Cid.crc h)

/-- The fields of the register. -/
def fields : List Field := [manufacturerField, oemField 0, oemField 1, nameField 0, nameField 1,
  nameField 2, nameField 3, nameField 4, revisionField, serialField, yearField, monthField, crcField]

/-- The fields of the register do not overlap. -/
theorem isLayout_parts (cid : Cid) : Image.IsLayout (cid.parts.map Prod.fst) := by
  have hfields : cid.parts.map Prod.fst = fields ++ [endField] := rfl
  rw [hfields]
  decide

theorem read_toImage {cid : Cid} {field : Field} {value : Nat} (hmem : (field, value) ∈ cid.parts) :
    field.read cid.toImage = value % 2 ^ field.width :=
  Field.read_assemble cid.isLayout_parts hmem

theorem byte_read_toImage {cid : Cid} {field : Field} {byte : UInt8} (hwidth : field.width = 8)
    (hmem : (field, byte.toNat) ∈ cid.parts) : (field.read cid.toImage).toUInt8 = byte :=
  Field.byte_read_assemble cid.isLayout_parts hwidth hmem

/-- **An identification is decoded as it was encoded,** as far as the register can hold it. -/
theorem decode_encode_reduced (cid : Cid) : decode cid.encode = cid.reduced := by
  have hmanufacturer : (manufacturerField.read cid.toImage).toUInt8 = cid.manufacturer :=
    byte_read_toImage rfl (by simp [parts])
  have hoem : #v[((oemField 0).read cid.toImage).toUInt8, ((oemField 1).read cid.toImage).toUInt8] =
      cid.oem := by
    ext i hi
    match i with
    | 0 => exact congrArg _ (byte_read_toImage rfl (by simp [parts]))
    | 1 => exact congrArg _ (byte_read_toImage rfl (by simp [parts]))
  have hname : #v[((nameField 0).read cid.toImage).toUInt8, ((nameField 1).read cid.toImage).toUInt8,
      ((nameField 2).read cid.toImage).toUInt8, ((nameField 3).read cid.toImage).toUInt8,
      ((nameField 4).read cid.toImage).toUInt8] = cid.name := by
    ext i hi
    match i with
    | 0 => exact congrArg _ (byte_read_toImage rfl (by simp [parts]))
    | 1 => exact congrArg _ (byte_read_toImage rfl (by simp [parts]))
    | 2 => exact congrArg _ (byte_read_toImage rfl (by simp [parts]))
    | 3 => exact congrArg _ (byte_read_toImage rfl (by simp [parts]))
    | 4 => exact congrArg _ (byte_read_toImage rfl (by simp [parts]))
  have hrevision : (revisionField.read cid.toImage).toUInt8 = cid.revisionCode :=
    byte_read_toImage rfl (by simp [parts])
  have hserial : (serialField.read cid.toImage).toUInt32 = cid.serial := by
    have hread : serialField.read cid.toImage = cid.serial.toNat % 2 ^ 32 :=
      read_toImage (by simp [parts])
    rw [hread, Nat.mod_eq_of_lt cid.serial.toNat_lt]
    simp
  have hyear : yearField.read cid.toImage = (cid.year.toNat - epochYear) % 2 ^ 8 :=
    read_toImage (by simp [parts])
  have hmonth : monthField.read cid.toImage = cid.month.toNat % 2 ^ 4 :=
    read_toImage (by simp [parts])
  have hcrc : crcField.read cid.toImage = cid.crc.toNat % 2 ^ 7 := read_toImage (by simp [parts])
  unfold decode encode
  rw [Image.ofBytes_toBytes, ofImage, hmanufacturer, hoem, hname, hrevision, hserial, hyear, hmonth,
    hcrc]
  rfl

/-! ## Back -/

/-- The bits that belong to no field. -/
def reserved : List Field := [⟨20, 4⟩]

theorem year_ofImage (image : Image) :
    (epochYear + yearField.read image).toUInt16.toNat - epochYear = yearField.read image := by
  have hread := yearField.read_lt image
  have hwidth : yearField.width = 8 := rfl
  rw [hwidth] at hread
  show (2000 + yearField.read image) % 2 ^ 16 - 2000 = _
  omega

/-- What was decoded has the fields of the image for its parts. -/
theorem parts_ofImage (image : Image) :
    (ofImage image).parts = (fields.map fun field => (field, field.read image)) ++ [(endField, 1)] := by
  simp (disch := decide) only [parts, fields, ofImage, Vector.getElem_mk, List.getElem_toArray,
    List.getElem_cons_zero, List.getElem_cons_succ, Field.toNat_toUInt8_read,
    Field.toNat_toUInt32_read, year_ofImage, List.map_cons, List.map_nil, List.cons_append,
    List.nil_append]

theorem encode_decode (bytes : List UInt8) :
    (decode bytes).encode = ((Image.ofBytes bytes).clear reserved ||| 1).toBytes := by
  have hcover : Image.mask fields = ~~~(Image.mask reserved ||| 1) := by decide
  have hend : Image.assemble [(endField, 1)] = 1 := by decide
  unfold encode toImage decode
  rw [parts_ofImage, Image.assemble_append, hend, Image.assemble_read_or_one hcover]

/-! ## Both -/

theorem reduced_eq (cid : Cid) : cid.reduced = { cid with
    year := (2000 + (max cid.year.toNat 2000 - 2000) % 256).toUInt16
    month := (cid.month.toNat % 16).toUInt8
    crc := (cid.crc.toNat % 128).toUInt8 } := by
  have hyear : max cid.year.toNat 2000 - 2000 = cid.year.toNat - epochYear := by
    unfold epochYear
    omega
  rw [hyear]
  rfl

/-- **There and back.** Fields are read by shifting and cutting, and the register of an identification is
    written field by field. Decoded again it is the identification with its year taken from 2000 on modulo
    256, its month modulo 16 and its checksum modulo 128, which is the same one exactly if these three have
    room. And sixteen bytes that are decoded and encoded again are the same but for bits 20 to 23, which
    are cleared, and bit 0, which is set. -/
theorem identification_round_trip :
    (∀ (field : Field) (image : Image),
      field.read image = (image.toNat >>> field.offset) % 2 ^ field.width) ∧
    (∀ cid : Cid, cid.toImage = cid.parts.foldr (fun part image => part.1.write part.2 image) 0) ∧
    (∀ cid : Cid, decode cid.encode = { cid with
      year := (2000 + (max cid.year.toNat 2000 - 2000) % 256).toUInt16
      month := (cid.month.toNat % 16).toUInt8
      crc := (cid.crc.toNat % 128).toUInt8 }) ∧
    (∀ cid : Cid, decode cid.encode = cid ↔
      (2000 ≤ cid.year.toNat ∧ cid.year.toNat ≤ 2255) ∧ cid.month.toNat < 16 ∧ cid.crc.toNat < 128) ∧
    ∀ raw : Vector UInt8 16,
      (Image.ofBytes raw.toList).toBytes = raw.toList ∧
      (decode raw.toList).encode = ((Image.ofBytes raw.toList).clear [⟨20, 4⟩] ||| 1).toBytes := by
  refine ⟨Field.read_eq_shiftRight, fun cid => ?_, fun cid => ?_, fun cid => ?_,
    fun raw => ⟨?_, ?_⟩⟩
  · exact Image.assemble_eq_write cid.isLayout_parts.1
  · rw [decode_encode_reduced, reduced_eq]
  · rw [decode_encode_reduced]
    constructor
    · intro hsame
      obtain ⟨⟨hfirst, hlast⟩, hmonth, hcrc⟩ := fits_of_reduced hsame
      exact ⟨⟨hfirst, Nat.le_of_lt_succ hlast⟩, hmonth, hcrc⟩
    · rintro ⟨⟨hfirst, hlast⟩, hmonth, hcrc⟩
      exact reduced_of_fits ⟨⟨hfirst, Nat.lt_succ_of_le hlast⟩, hmonth, hcrc⟩
  · exact Image.toBytes_ofBytes raw.length_toList
  · exact encode_decode raw.toList

end Cid

end SpiDisk
