import Mathlib.Data.List.GetD
import SpiDisk.Proofs.Device
import SpiDisk.Proofs.Disk.Geometry

/-!
# `SpiDisk.Proofs.Disk.Identity` — what the texts of an answer tell of a card

The answer by which a disk introduces itself holds three texts. None of them is cut, since each is no longer
than its string and its words have room for, and none holds anything but printable ASCII. So whoever reads the
words back, the high byte first, can tell from fixed places in them what the card's identification says of its
serial number, its revision, its maker and its product name, of which only what is not printable is lost.

## Contents
- **Numerals.** `Text.numeral?`, which reads what `Text.fixed` writes.
- **Packing.** `Identify.textAt`, the text in a run of words, and `Identify.textAt_eq`.
- **Identities.** `Identity`, and `Texts.identity?` that reads it.
- **Texts.** `Identify.serialText_eq`, `firmwareText_eq` and `modelText_eq`: no text is cut; `textsOf_words` and
  `identity?_textsOf`, by which texts and identity come back.
- **Answers.** `Identify.Introduces` and `Disk.identify_readable`.
-/

namespace SpiDisk

namespace Text

/-! ## Numerals -/

/-- The printable characters of ASCII. -/
def Printable (c : Char) : Prop :=
  ' ' ≤ c ∧ c ≤ '~'

instance (c : Char) : Decidable (Printable c) :=
  inferInstanceAs (Decidable (_ ∧ _))

/-- The value of an upper-case hexadecimal digit. -/
def upperValue? (c : Char) : Option Nat :=
  if '0' ≤ c ∧ c ≤ '9' then some (c.toNat - 48)
  else if 'A' ≤ c ∧ c ≤ 'F' then some (c.toNat - 55)
  else none

/-- The value of an upper-case hexadecimal numeral. -/
def numeral? (digits : List Char) : Option Nat :=
  digits.foldlM (fun value c => (upperValue? c).map (16 * value + ·)) 0

theorem upperValue?_upperDigit : ∀ n < 16, upperValue? (upperDigit n) = some n := by
  decide

theorem printable_upperDigit : ∀ n < 16, Printable (upperDigit n) := by
  decide

/-- What holds of every digit holds of every character of a numeral. -/
theorem forall_mem_fixed {glyph : Nat → Char} {P : Char → Prop} (h : ∀ n < 16, P (glyph n))
    (width n : Nat) : ∀ c ∈ fixed glyph width n, P c := by
  induction width generalizing n with
  | zero => exact nofun
  | succ width ih =>
    intro c hc
    rcases List.mem_append.mp hc with hc | hc
    · exact ih _ c hc
    · rw [List.mem_singleton.mp hc]
      exact h _ (Nat.mod_lt _ (by decide))

/-- **A numeral is read back** up to the digits that it has no room for. -/
theorem numeral?_fixed (width n : Nat) :
    numeral? (fixed upperDigit width n) = some (n % 16 ^ width) := by
  induction width generalizing n with
  | zero => rw [Nat.pow_zero, Nat.mod_one]; rfl
  | succ width ih =>
    have hdigit := upperValue?_upperDigit (n % 16) (Nat.mod_lt _ (by decide))
    have hlast : numeral? (fixed upperDigit (width + 1) n) =
        (numeral? (fixed upperDigit width (n / 16))).bind fun value =>
          (upperValue? (upperDigit (n % 16))).map (16 * value + ·) := by
      unfold numeral?
      rw [fixed, List.foldlM_append]
      simp only [List.foldlM_cons, List.foldlM_nil, bind_pure]
      rfl
    rw [hlast, ih, hdigit, Option.bind_some, Option.map_some, Nat.pow_succ, Nat.mul_comm _ 16,
      Nat.mod_mul, Nat.add_comm]

end Text

namespace Identify

open Text

/-! ## Packing -/

/-- The characters of a word, that of the high byte first. -/
def charsOf (word : UInt16) : List Char :=
  [Char.ofNat (word >>> 8).toUInt8.toNat, Char.ofNat word.toUInt8.toNat]

/-- The text in `count` words of an answer, from `first` on. -/
def textAt (answer : List UInt16) (first count : Nat) : List Char :=
  ((answer.drop first).take count).flatMap charsOf

section Packing

variable {text : List Char} (hprintable : ∀ c ∈ text, Printable c)

include hprintable

/-- A text is printable behind its end as well, where it is filled up with spaces. -/
theorem printable_getD (i : Nat) : Printable (text.getD i ' ') := by
  rw [List.getD_eq_getElem?_getD]
  cases hchar : text[i]? with
  | none => decide
  | some c => exact hprintable c (List.mem_of_getElem? hchar)

theorem toNat_getD_lt (i : Nat) : (text.getD i ' ').toNat < 256 := by
  have hle : (text.getD i ' ').toNat ≤ '~'.toNat :=
    UInt32.le_iff_toNat_le.mp (printable_getD hprintable i).2
  exact Nat.lt_of_le_of_lt hle (by decide)

/-- A character and the one behind it share a word without touching each other. -/
theorem toNat_pairAt (i : Nat) : (pairAt text i).toNat =
    (text.getD (2 * i) ' ').toNat * 256 + (text.getD (2 * i + 1) ' ').toNat := by
  have hhigh := toNat_getD_lt hprintable (2 * i)
  have hlow := toNat_getD_lt hprintable (2 * i + 1)
  have hcode (j : Nat) : (codeAt text j).toNat = (text.getD j ' ').toNat := by
    have hlt := toNat_getD_lt hprintable j
    exact UInt16.toNat_ofNat_of_lt' (Nat.lt_trans hlt (by decide))
  unfold pairAt
  rw [UInt16.toNat_or, UInt16.toNat_shiftLeft, hcode, hcode]
  show _ <<< 8 % 2 ^ 16 ||| _ = _
  rw [Nat.mod_eq_of_lt, ← Nat.shiftLeft_add_eq_or_of_lt hlow, Nat.shiftLeft_eq]
  rw [Nat.shiftLeft_eq]
  omega

theorem charsOf_pairAt (i : Nat) :
    charsOf (pairAt text i) = [text.getD (2 * i) ' ', text.getD (2 * i + 1) ' '] := by
  have hword := toNat_pairAt hprintable i
  have hhigh := toNat_getD_lt hprintable (2 * i)
  have hlow := toNat_getD_lt hprintable (2 * i + 1)
  have hfirst : (pairAt text i >>> 8).toUInt8.toNat = (text.getD (2 * i) ' ').toNat := by
    rw [UInt16.toNat_toUInt8, UInt16.toNat_shiftRight, hword]
    show (_ >>> 8) % 2 ^ 8 = _
    rw [Nat.shiftRight_eq_div_pow]
    omega
  have hsecond : (pairAt text i).toUInt8.toNat = (text.getD (2 * i + 1) ' ').toNat := by
    rw [UInt16.toNat_toUInt8, hword]
    omega
  unfold charsOf
  rw [hfirst, hsecond, Char.ofNat_toNat, Char.ofNat_toNat]

end Packing

/-- Pairs that are written one after the other are the elements in their order. -/
theorem flatMap_range_pairs {α : Type} (f : Nat → α) (count : Nat) :
    ((List.range count).flatMap fun i => [f (2 * i), f (2 * i + 1)]) =
      (List.range (2 * count)).map f := by
  induction count with
  | zero => rfl
  | succ count ih =>
    rw [List.range_succ, List.flatMap_append, ih, Nat.mul_succ, List.range_succ, List.range_succ]
    simp

theorem map_getD_range {text : List Char} {length : Nat} (h : text.length ≤ length) :
    (List.range length).map (text.getD · ' ') =
      text ++ List.replicate (length - text.length) ' ' := by
  apply List.ext_getElem
  · simp [h]
  · intro i _ _
    rw [List.getElem_map, List.getElem_range, List.getElem_append]
    by_cases hinside : i < text.length
    · rw [dif_pos hinside, List.getD_eq_getElem _ _ hinside]
    · rw [dif_neg hinside, List.getElem_replicate, List.getD_eq_default _ _ (Nat.le_of_not_lt hinside)]

/-- **A text is read back** as it was, filled up with spaces to the end of its words. -/
theorem textAt_eq {answer : List UInt16} {text : List Char} {first count : Nat}
    (hprintable : ∀ c ∈ text, Printable c) (hlength : text.length ≤ 2 * count)
    (hwords : ∀ i < count, answer[first + i]? = some (pairAt text i)) :
    textAt answer first count = text ++ List.replicate (2 * count - text.length) ' ' := by
  have hslice : (answer.drop first).take count = (List.range count).map (pairAt text) := by
    apply List.ext_getElem?
    intro i
    by_cases hi : i < count
    · simp [hi, hwords i hi]
    · rw [List.getElem?_take_eq_none (Nat.le_of_not_lt hi)]
      simp [hi]
  unfold textAt
  rw [hslice, List.flatMap_map]
  simp only [charsOf_pairAt hprintable]
  rw [flatMap_range_pairs fun i => text.getD i ' ', map_getD_range hlength]

end Identify

/-! ## Identities -/

/-- What a disk tells of its card. -/
structure Identity where
  serial : UInt32
  /-- Major and minor. -/
  revision : UInt8 × UInt8
  manufacturer : UInt8
  /-- The product name, with a question mark for every byte that is not printable. -/
  name : List Char
  deriving DecidableEq

theorem Cid.revision_lt (cid : Cid) :
    cid.revision.1.toNat < 16 ∧ cid.revision.2.toNat < 16 := by
  constructor
  · show (cid.revisionCode >>> 4).toNat < 16
    rw [UInt8.toNat_shiftRight]
    show cid.revisionCode.toNat >>> 4 < 16
    have hlt := cid.revisionCode.toNat_lt
    rw [Nat.shiftRight_eq_div_pow]
    omega
  · show (cid.revisionCode &&& 0x0F).toNat < 16
    rw [UInt8.toNat_and]
    exact Nat.and_lt_two_pow _ (by decide : (0x0F : UInt8).toNat < 2 ^ 4)

/-- The identity of a card that has this identification. -/
def Cid.identity (cid : Cid) : Identity where
  serial := cid.serial
  revision := cid.revision
  manufacturer := cid.manufacturer
  name := cid.name.toList.map Cid.printable

/-- The texts of an answer. -/
structure Texts where
  serial : List Char
  firmware : List Char
  model : List Char

namespace Texts

/-- Some characters of a text, from `first` on. -/
def part (text : List Char) (first count : Nat) : List Char :=
  (text.drop first).take count

theorem part_append {front middle : List Char} {first count : Nat} (hfirst : front.length = first)
    (hcount : middle.length = count) (back : List Char) :
    part (front ++ middle ++ back) first count = middle := by
  unfold part
  rw [List.append_assoc, List.drop_left' hfirst, List.take_left' hcount]

/-- The identity that texts tell of, each part of it in its place. -/
def identity? (texts : Texts) : Option Identity := do
  let serial ← Text.numeral? (part texts.serial 12 8)
  let major ← Text.numeral? (part texts.firmware 0 1)
  let minor ← Text.numeral? (part texts.firmware 1 1)
  let manufacturer ← Text.numeral? (part texts.model 4 2)
  some
    { serial := serial.toUInt32
      revision := (major.toUInt8, minor.toUInt8)
      manufacturer := manufacturer.toUInt8
      name := part texts.model 13 5 }

/-- All characters of texts. -/
def chars (texts : Texts) : List Char :=
  texts.serial ++ texts.firmware ++ texts.model

end Texts

namespace Identify

open Text

/-- The texts in an answer. -/
def textsOf (answer : List UInt16) : Texts where
  serial := textAt answer 10 10
  firmware := textAt answer 23 4
  model := textAt answer 27 20

theorem printable_name (byte : UInt8) : Printable (Cid.printable byte) := by
  have hall : ∀ n < 256, Printable (Cid.printable (UInt8.ofNat n)) := by decide +kernel
  have hbyte := hall byte.toNat byte.toNat_lt
  rwa [UInt8.ofNat_toNat] at hbyte

section Texts

variable (cid : Cid) (geometry : Geometry) (rest : List UInt16)

/-! ### No text is cut: each is no longer than its string. -/

theorem serialText_eq :
    serialText cid = List.replicate 12 ' ' ++ fixed upperDigit 8 cid.serial.toNat := by
  have hdigits : bounded 8 [fixed upperDigit 8 cid.serial.toNat] =
      fixed upperDigit 8 cid.serial.toNat := by
    rw [bounded_of_fits]
    · exact List.append_nil _
    · simp [length_fixed]
  unfold serialText
  simp only [hdigits, length_fixed]
  rw [bounded_of_fits]
  · simp
  · simp [length_fixed, serialLength]

theorem firmwareText_eq : firmwareText cid =
    fixed upperDigit 1 cid.revision.1.toNat ++ fixed upperDigit 1 cid.revision.2.toNat := by
  unfold firmwareText
  rw [bounded_of_fits]
  · simp
  · simp [length_fixed, firmwareLength]

theorem modelText_eq : modelText cid =
    "mfg.".toList ++ fixed upperDigit 2 cid.manufacturer.toNat ++ "SD-CARD".toList ++
      cid.name.toList.map Cid.printable := by
  unfold modelText
  rw [bounded_of_fits]
  · simp
  · simp [length_fixed, modelLength]

/-! ### What the texts are made of, and where they stand. -/

theorem printable_serialText : ∀ c ∈ serialText cid, Printable c := by
  intro c hc
  rw [serialText_eq] at hc
  rcases List.mem_append.mp hc with hc | hc
  · rw [List.eq_of_mem_replicate hc]
    decide
  · exact forall_mem_fixed printable_upperDigit _ _ c hc

theorem printable_firmwareText : ∀ c ∈ firmwareText cid, Printable c := by
  intro c hc
  rw [firmwareText_eq] at hc
  rcases List.mem_append.mp hc with hc | hc
  · exact forall_mem_fixed printable_upperDigit _ _ c hc
  · exact forall_mem_fixed printable_upperDigit _ _ c hc

theorem printable_modelText : ∀ c ∈ modelText cid, Printable c := by
  have hmark : ∀ c ∈ "mfg.".toList, Printable c := by simp [Printable]
  have hkind : ∀ c ∈ "SD-CARD".toList, Printable c := by simp [Printable]
  intro c hc
  rw [modelText_eq] at hc
  simp only [List.mem_append] at hc
  rcases hc with ((hc | hc) | hc) | hc
  · exact hmark c hc
  · exact forall_mem_fixed printable_upperDigit _ _ c hc
  · exact hkind c hc
  · obtain ⟨byte, -, rfl⟩ := List.mem_map.mp hc
    exact printable_name byte

theorem length_serialText : (serialText cid).length = 20 := by
  simp [serialText_eq, length_fixed]

theorem length_firmwareText : (firmwareText cid).length = 2 := by
  simp [firmwareText_eq, length_fixed]

theorem length_modelText : (modelText cid).length = 18 := by
  simp [modelText_eq, length_fixed]

theorem word_serial {i : Nat} (hi : i < 10) :
    word cid geometry (10 + i) = pairAt (serialText cid) i := by
  unfold word serialLength
  rw [if_neg (by omega), if_neg (by omega), if_neg (by omega), if_neg (by omega),
    if_pos (by omega), Nat.add_sub_cancel_left]

theorem word_firmware {i : Nat} (hi : i < 4) :
    word cid geometry (23 + i) = pairAt (firmwareText cid) i := by
  unfold word serialLength firmwareLength
  rw [if_neg (by omega), if_neg (by omega), if_neg (by omega), if_neg (by omega),
    if_neg (by omega), if_pos (by omega), Nat.add_sub_cancel_left]

theorem word_model {i : Nat} (hi : i < 20) :
    word cid geometry (27 + i) = pairAt (modelText cid) i := by
  unfold word serialLength firmwareLength modelLength
  rw [if_neg (by omega), if_neg (by omega), if_neg (by omega), if_neg (by omega),
    if_neg (by omega), if_neg (by omega), if_pos (by omega), Nat.add_sub_cancel_left]

theorem textAt_words {text : List Char} {first count : Nat} (hprintable : ∀ c ∈ text, Printable c)
    (hlength : text.length ≤ 2 * count) (hinside : first + count ≤ size)
    (hword : ∀ i < count, word cid geometry (first + i) = pairAt text i) :
    textAt (words cid geometry ++ rest) first count =
      text ++ List.replicate (2 * count - text.length) ' ' := by
  refine textAt_eq hprintable hlength ?_
  intro i hi
  rw [getElem?_words _ _ _ (Nat.lt_of_lt_of_le (Nat.add_lt_add_left hi first) hinside), hword i hi]

/-- **The texts come back whole,** each filled up with spaces to the end of its words. -/
theorem textsOf_words : textsOf (words cid geometry ++ rest) =
    { serial := serialText cid
      firmware := firmwareText cid ++ List.replicate 6 ' '
      model := modelText cid ++ List.replicate 22 ' ' } := by
  have hserial := textAt_words cid geometry rest (printable_serialText cid)
    (by simp [length_serialText]) (by decide) fun _ => word_serial cid geometry
  have hfirmware := textAt_words cid geometry rest (printable_firmwareText cid)
    (by simp [length_firmwareText]) (by decide) fun _ => word_firmware cid geometry
  have hmodel := textAt_words cid geometry rest (printable_modelText cid)
    (by simp [length_modelText]) (by decide) fun _ => word_model cid geometry
  rw [length_serialText] at hserial
  rw [length_firmwareText] at hfirmware
  rw [length_modelText] at hmodel
  unfold textsOf
  rw [hserial, hfirmware, hmodel]
  simp

omit cid geometry rest in
/-- A numeral that its digits have room for is read back from its place in a text. -/
theorem numeral?_part {front back : List Char} {first width n : Nat} (hfirst : front.length = first)
    (hroom : n < 16 ^ width) :
    numeral? (Texts.part (front ++ fixed upperDigit width n ++ back) first width) = some n := by
  rw [Texts.part_append hfirst (length_fixed _ _ _), numeral?_fixed, Nat.mod_eq_of_lt hroom]

/-- **The identity is read back** from the texts. -/
theorem identity?_textsOf :
    (textsOf (words cid geometry ++ rest)).identity? = some cid.identity := by
  have hserial : numeral? (Texts.part (serialText cid) 12 8) = some cid.serial.toNat := by
    rw [serialText_eq, ← List.append_nil (_ ++ _)]
    exact numeral?_part List.length_replicate cid.serial.toNat_lt
  have hmajor : numeral? (Texts.part (firmwareText cid ++ List.replicate 6 ' ') 0 1) =
      some cid.revision.1.toNat := by
    have hfront : firmwareText cid ++ List.replicate 6 ' ' =
        [] ++ fixed upperDigit 1 cid.revision.1.toNat ++
          (fixed upperDigit 1 cid.revision.2.toNat ++ List.replicate 6 ' ') := by
      rw [firmwareText_eq, List.nil_append, List.append_assoc]
    rw [hfront]
    exact numeral?_part rfl cid.revision_lt.1
  have hminor : numeral? (Texts.part (firmwareText cid ++ List.replicate 6 ' ') 1 1) =
      some cid.revision.2.toNat := by
    rw [firmwareText_eq]
    exact numeral?_part (length_fixed _ _ _) cid.revision_lt.2
  have hmanufacturer : numeral? (Texts.part (modelText cid ++ List.replicate 22 ' ') 4 2) =
      some cid.manufacturer.toNat := by
    rw [modelText_eq, List.append_assoc, List.append_assoc]
    exact numeral?_part rfl cid.manufacturer.toNat_lt
  have hname : Texts.part (modelText cid ++ List.replicate 22 ' ') 13 5 =
      cid.name.toList.map Cid.printable := by
    rw [modelText_eq]
    refine Texts.part_append ?_ ?_ _
    · simp [length_fixed]
    · simp
  rw [textsOf_words]
  unfold Texts.identity? Cid.identity
  dsimp only
  rw [hserial, hmajor, hminor, hmanufacturer, hname]
  simp

/-- Two cards have the same texts if and only if they have the same identity. -/
theorem textsOf_eq_iff {cid cid' : Cid} {geometry geometry' : Geometry} {rest rest' : List UInt16} :
    textsOf (words cid geometry ++ rest) = textsOf (words cid' geometry' ++ rest') ↔
      cid.identity = cid'.identity := by
  constructor
  · intro htexts
    have hread := congrArg Texts.identity? htexts
    rw [identity?_textsOf, identity?_textsOf] at hread
    exact Option.some.inj hread
  · intro hidentity
    obtain ⟨hserial, hrevision, hmanufacturer, hname⟩ := Identity.mk.inj hidentity
    rw [textsOf_words, textsOf_words]
    simp only [serialText_eq, firmwareText_eq, modelText_eq]
    rw [hserial, hrevision, hmanufacturer, hname]

end Texts

/-! ## Answers -/

/-- The words that mean something. -/
def Documented (i : Nat) : Prop :=
  i ∈ [0, 1, 3, 6, 49, 60, 61] ∨ 10 ≤ i ∧ i < 20 ∨ 23 ≤ i ∧ i < 27 ∨ 27 ≤ i ∧ i < 47

theorem word_of_not_documented (cid : Cid) (geometry : Geometry) {i : Nat} (h : ¬ Documented i) :
    word cid geometry i = 0 := by
  simp only [Documented, List.mem_cons, List.not_mem_nil, or_false, not_or, not_and] at h
  unfold word serialLength firmwareLength modelLength
  rw [if_neg (by omega), if_neg (by omega), if_neg (by omega), if_neg (by omega), if_neg (by omega),
    if_neg (by omega), if_neg (by omega), if_neg (by omega), if_neg (by omega), if_neg (by omega)]

/-- What an answer in a buffer holds for a card with this identification. -/
structure Introduces (cid : Cid) (buffer answer : List UInt16) : Prop where
  printable : ∀ c ∈ (textsOf answer).chars, Printable c
  /-- The serial number stands to the right of twenty characters, in eight digits. -/
  serial : (textsOf answer).serial.length = 20 ∧
    (textsOf answer).serial.take 12 = List.replicate 12 ' ' ∧
    ∀ c ∈ (textsOf answer).serial.drop 12, (upperValue? c).isSome = true
  identity : (textsOf answer).identity? = some cid.identity
  /-- Words that mean nothing are zero, whatever the buffer held. -/
  zero : ∀ i < 256, ¬ Documented i → answer[i]? = some 0
  rest : ∀ i, 256 ≤ i → answer[i]? = buffer[i]?

theorem printable_textsOf (cid : Cid) (geometry : Geometry) (rest : List UInt16) :
    ∀ c ∈ (textsOf (words cid geometry ++ rest)).chars, Printable c := by
  have hspace (count : Nat) : ∀ c ∈ List.replicate count ' ', Printable c := by
    intro c hc
    rw [List.eq_of_mem_replicate hc]
    decide
  rw [textsOf_words]
  simp only [Texts.chars, List.forall_mem_append]
  exact ⟨⟨printable_serialText cid, printable_firmwareText cid, hspace 6⟩,
    printable_modelText cid, hspace 22⟩

/-- Behind the spaces of a serial number there are digits and nothing else. -/
theorem digits_serialText (cid : Cid) : (serialText cid).take 12 = List.replicate 12 ' ' ∧
    ∀ c ∈ (serialText cid).drop 12, (upperValue? c).isSome = true := by
  have hspaces : (List.replicate 12 ' ').length = 12 := List.length_replicate
  have hdigits : ∀ n < 16, (upperValue? (upperDigit n)).isSome = true := by
    intro n hn
    rw [upperValue?_upperDigit n hn]
    rfl
  rw [serialText_eq, List.take_left' hspaces, List.drop_left' hspaces]
  constructor
  · rfl
  · exact forall_mem_fixed (P := fun c => (upperValue? c).isSome = true) hdigits _ _

theorem introduces_words (cid : Cid) (geometry : Geometry) {buffer : List UInt16} :
    Introduces cid buffer (words cid geometry ++ buffer.drop size) where
  printable := printable_textsOf cid geometry _
  serial := by
    rw [textsOf_words]
    dsimp only
    exact ⟨length_serialText cid, digits_serialText cid⟩
  identity := identity?_textsOf cid geometry _
  zero i hi hnone := by
    rw [getElem?_words _ _ _ hi, word_of_not_documented _ _ hnone]
  rest i hi := by
    have hi : size ≤ i := hi
    have hbehind : (words cid geometry).length ≤ i := by rwa [length_words]
    rw [List.getElem?_append_right hbehind, length_words, List.getElem?_drop, Nat.add_sub_cancel' hi]

end Identify

namespace Disk

open SessionM Identify

variable {H C : Type}

/-- **An answer can be read.** A unit answers if there is a card and the buffer has room for the answer, and
    leaves the buffer as it is if not. All characters of an answer's texts are printable, and the serial number,
    the revision, the maker and the name of its card are read back out of them; words that mean nothing are zero
    and what lies behind the answer is as it was. Two cards that differ in one of these never have the same
    texts. -/
theorem identify_readable (buffer : List UInt16) (s : Session (Disk H) C) :
    ∃ done answer s', identify buffer s = some ((done, answer), s') ∧ s'.device = s.device ∧
      (done = true ↔ s.device.card.info.isPresent = true ∧ 256 ≤ buffer.length) ∧
      (done = false → answer = buffer) ∧
      (done = true → Introduces s.device.card.info.cid buffer answer ∧
        ∀ (other : List UInt16) (t t' : Session (Disk H) C) (answer' : List UInt16),
          identify other t = some ((true, answer'), t') →
            (textsOf answer = textsOf answer' ↔
              s.device.card.info.cid.identity = t.device.card.info.cid.identity)) := by
  by_cases hable : s.device.card.info.isPresent = true ∧ size ≤ buffer.length
  · refine ⟨true, _, s, identify_present hable.1 hable.2, rfl, iff_of_true rfl hable, nofun, fun _ => ?_⟩
    refine ⟨introduces_words _ _, ?_⟩
    intro other t t' answer' hother
    by_cases hable' : t.device.card.info.isPresent = true ∧ size ≤ other.length
    · rw [identify_present hable'.1 hable'.2] at hother
      cases hother
      exact textsOf_eq_iff
    · obtain ⟨log, hrefused⟩ := identify_refused hable'
      rw [hrefused] at hother
      cases hother
  · obtain ⟨log, hrefused⟩ := identify_refused hable
    exact ⟨false, buffer, _, hrefused, rfl, iff_of_false Bool.false_ne_true hable, fun _ => rfl, nofun⟩

end Disk

end SpiDisk
