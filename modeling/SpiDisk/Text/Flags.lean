import SpiDisk.Text.Hex

/-!
# `SpiDisk.Text.Flags` — the text of a named bit set

A bit set is written as its type's name around the names of the bits that are set, in the order of
their declaration; bits without a name come last as one number, and the empty set is `0x0`.
-/

namespace SpiDisk.Text

/-- A bit set's name and the names of its bits, each with its mask. -/
structure FlagNames where
  title : String
  bits : List (String × Nat)

namespace FlagNames

/-- The names of the bits set in `value`, in the order of their declaration. -/
def present (names : FlagNames) (value : Nat) : List String :=
  (names.bits.filter fun bit => value &&& bit.2 != 0).map Prod.fst

/-- The bits of `value` that have no name. -/
def unnamed (names : FlagNames) (value : Nat) : Nat :=
  names.bits.foldl (fun rest bit => rest - (rest &&& bit.2)) value

/-- The text of a set: the names, then what has no name, joined by bars. -/
def render (names : FlagNames) (value : Nat) : String :=
  let rest := names.unnamed value
  let parts := names.present value ++ (if rest = 0 then [] else [hexShortest rest])
  names.title ++ "(" ++ (if parts.isEmpty then "0x0" else " | ".intercalate parts) ++ ")"

end FlagNames

end SpiDisk.Text
