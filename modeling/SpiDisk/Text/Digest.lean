import SpiDisk.Text.Hex

/-!
# `SpiDisk.Text.Digest` — short forms of long byte strings

A byte string of at most thirty-two bytes stands for itself; a longer one is known by its length,
a 32-bit checksum and its two ends.
-/

namespace SpiDisk.Text

/-- The 32-bit FNV-1a checksum: each byte is mixed in by exclusive or, then multiplied through. -/
def checksum (bytes : List UInt8) : UInt32 :=
  bytes.foldl (fun sum b => (sum ^^^ b.toUInt32) * 0x01000193) 0x811c9dc5

/-- The longest byte string that stands for itself. -/
def shortLimit : Nat := 32

/-- The short form of a byte string. -/
inductive Digest where
  /-- The bytes themselves. -/
  | whole (bytes : List UInt8)
  /-- Length, checksum, first sixteen and last sixteen bytes. -/
  | ends (length : Nat) (sum : UInt32) (head tail : List UInt8)

/-- The short form of `bytes`. -/
def Digest.ofBytes (bytes : List UInt8) : Digest :=
  if bytes.length ≤ shortLimit then .whole bytes
  else .ends bytes.length (checksum bytes) (bytes.take 16) (bytes.drop (bytes.length - 16))

/-- Hexadecimal bytes, or length and checksum of a long string. -/
def abridged (bytes : List UInt8) : String :=
  if bytes.length ≤ shortLimit then ofBytes bytes
  else "#" ++ toString bytes.length ++ ":" ++ hex 8 (checksum bytes).toNat

end SpiDisk.Text
