import StructuralSearch.Text.Basic

/-!
# Intervals of characters as bytes

The characters from one code point to another, in UTF-8: a list of sequences, each of which allows
an interval of bytes at every place.

Main declaration: `Utf8.sequences`.
-/

namespace StructuralSearch

namespace Utf8

/-- A sequence of bytes, each between two bounds. -/
abbrev Sequence := List (Nat × Nat)

/-- The sequences for the numbers from `lo` to `hi`, when `n` bytes follow the first. Each of those
holds six bits; the first byte is given without the bits that tell `n`. -/
def sequencesOf : Nat → Nat → Nat → List Sequence
  | 0, lo, hi => [[(lo, hi)]]
  | n + 1, lo, hi =>
    let size := Nat.pow 64 (n + 1)
    let first := lo / size
    let last := hi / size
    let behind (byte a b : Nat) : List Sequence := (sequencesOf n a b).map ((byte, byte) :: ·)
    if first = last then behind first (lo % size) (hi % size)
    else
      let start := if lo % size = 0 then [] else behind first (lo % size) (size - 1)
      let stop := if hi % size = size - 1 then [] else behind last 0 (hi % size)
      let firstWhole := if lo % size = 0 then first else first + 1
      let lastWhole := if hi % size = size - 1 then last else last - 1
      let middle :=
        if lastWhole < firstWhole then []
        else [(firstWhole, lastWhole) :: List.replicate (n + 1) (0, 63)]
      start ++ middle ++ stop

/-- The classes of code points by the number of bytes after the first. -/
def classes : List (Nat × Nat × Nat) :=
  [(0, 0, 0x7F), (1, 0x80, 0x7FF), (2, 0x800, 0xD7FF), (2, 0xE000, 0xFFFF), (3, 0x10000, 0x10FFFF)]

/-- The sequences for the characters from one code point to another, in order. -/
def sequences (lo hi : Nat) : List Sequence :=
  classes.flatMap fun (n, least, most) =>
    let a := max lo least
    let b := min hi most
    if b < a then [] else sequencesOf n a b

example : sequences 0x20 0x7FF = [[(0x20, 0x7F)], [(2, 31), (0, 63)]] := by decide +kernel

end Utf8

end StructuralSearch
