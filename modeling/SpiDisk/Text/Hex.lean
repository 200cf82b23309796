/-!
# `SpiDisk.Text.Hex` — hexadecimal, padded and bounded text

## Contents
- **Digits.** `digit`, `upperDigit` and the fixed-width numeral `fixed`, most significant digit first.
- **Bytes.** `ofBytes` (two digits each, run together) and `listing` (two digits each, in brackets).
- **Padding.** `padLeft` and `padRight`, which never cut.
- **Bounds.** `bounded`, what a string of limited length takes of what is written to it.
-/

namespace SpiDisk.Text

/-- The lower-case hexadecimal digit of a value below sixteen. -/
def digit (n : Nat) : Char :=
  if n < 10 then Char.ofNat (48 + n) else Char.ofNat (87 + n)

/-- The upper-case hexadecimal digit of a value below sixteen. -/
def upperDigit (n : Nat) : Char :=
  if n < 10 then Char.ofNat (48 + n) else Char.ofNat (55 + n)

/-- The last `width` hexadecimal digits of `n`, most significant first. -/
def fixed (glyph : Nat → Char) : Nat → Nat → List Char
  | 0, _ => []
  | width + 1, n => fixed glyph width (n / 16) ++ [glyph (n % 16)]

theorem length_fixed (glyph : Nat → Char) (width n : Nat) : (fixed glyph width n).length = width := by
  induction width generalizing n with
  | zero => rfl
  | succ width ih => simp [fixed, ih]

/-- A lower-case numeral of exactly `width` digits. -/
def hex (width n : Nat) : String :=
  String.ofList (fixed digit width n)

/-- A numeral of exactly `width` digits behind the mark `0x`. -/
def hexMarked (width n : Nat) : String :=
  "0x" ++ hex width n

/-- The shortest numeral of `n` behind the mark `0x`. -/
def hexShortest (n : Nat) : String :=
  "0x" ++ String.ofList (Nat.toDigits 16 n)

/-- Two digits for each byte, run together. -/
def ofBytes (bytes : List UInt8) : String :=
  String.ofList (bytes.flatMap fun b => fixed digit 2 b.toNat)

/-- Two digits for each byte, separated by commas, in brackets. -/
def listing (bytes : List UInt8) : String :=
  "[" ++ ", ".intercalate (bytes.map fun b => hex 2 b.toNat) ++ "]"

/-! ## Padding -/

/-- Fill up on the left to `width` characters. -/
def padLeft (fill : Char) (width : Nat) (text : String) : String :=
  String.ofList (List.replicate (width - text.length) fill) ++ text

/-- Fill up on the right to `width` characters. -/
def padRight (fill : Char) (width : Nat) (text : String) : String :=
  text ++ String.ofList (List.replicate (width - text.length) fill)

/-! ## Bounds -/

/-- What a string of at most `capacity` characters holds after pieces were written to it, one after the
    other. The first that does not fit is left out, and the writing ends with it. -/
def bounded (capacity : Nat) : List (List Char) → List Char
  | [] => []
  | piece :: rest =>
    if piece.length ≤ capacity then piece ++ bounded (capacity - piece.length) rest else []

/-- Nothing is left out of what fits. -/
theorem bounded_of_fits {capacity : Nat} {pieces : List (List Char)}
    (h : pieces.flatten.length ≤ capacity) : bounded capacity pieces = pieces.flatten := by
  induction pieces generalizing capacity with
  | nil => rfl
  | cons piece rest ih =>
    rw [List.flatten_cons, List.length_append] at h
    have hfirst : piece.length ≤ capacity := by omega
    have hrest : rest.flatten.length ≤ capacity - piece.length := by omega
    rw [bounded, if_pos hfirst, ih hrest, List.flatten_cons]

end SpiDisk.Text
