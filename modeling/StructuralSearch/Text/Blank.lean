import StructuralSearch.Text.Basic

/-!
# Blank characters

The blank characters are those with the Unicode property White_Space. Trimming removes them from
the ends of a text.
-/

namespace StructuralSearch

namespace Text

/-- The code points with the Unicode property White_Space, as closed intervals. -/
def blankRanges : List (Nat × Nat) :=
  [(0x09, 0x0D), (0x20, 0x20), (0x85, 0x85), (0xA0, 0xA0), (0x1680, 0x1680), (0x2000, 0x200A),
    (0x2028, 0x2029), (0x202F, 0x202F), (0x205F, 0x205F), (0x3000, 0x3000)]

/-- Whether a character is white space in Unicode. -/
def isBlank (c : Char) : Bool := blankRanges.any fun (lo, hi) => lo ≤ c.toNat && c.toNat ≤ hi

/-- The text without the blanks at its start. -/
def trimStart (t : Text) : Text := t.dropWhile isBlank

/-- The text without the blanks at its end. -/
def trimEnd (t : Text) : Text := (t.reverse.dropWhile isBlank).reverse

/-- The text without the blanks at both ends. -/
def trim (t : Text) : Text := trimEnd (trimStart t)

/-- Whether a text holds nothing but blanks. -/
def isBlankText (t : Text) : Bool := t.all isBlank

example : trim " \t a b\u3000\n".toList = "a b".toList := by decide

end Text

end StructuralSearch
