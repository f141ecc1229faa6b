import StructuralSearch.Text.Basic
import StructuralSearch.Text.Case.Mapping

/-!
# Letter case

Upper and lower case of texts. A character may become several, and the lower case of a capital
sigma depends on its surroundings.

Main declarations:
1. `Text.upperChar`, `Text.lowerChar`: the case mappings of a character.
2. `Text.upper`, `Text.lower`: those of a text.
3. `Text.foldOrbit`: the characters that agree when case is ignored.
-/

namespace StructuralSearch

namespace Text

/-- A character in the case of two tables: one for several characters, one for single ones. -/
def mapChar (special : List (Nat × List Nat)) (single : List Shift) (c : Char) : Text :=
  match Shift.image? c.toNat single with
  | some n => [Char.ofNat n]
  | none =>
    if c.toNat < 0x80 then [c]
    else
      match special.lookup c.toNat with
      | some ns => ns.map Char.ofNat
      | none => [c]

/-- A character in upper case. -/
def upperChar (c : Char) : Text := mapChar upperSpecial Shift.upper c

/-- A character in lower case. -/
def lowerChar (c : Char) : Text := mapChar lowerSpecial Shift.lower c

/-- A text in upper case. -/
def upper (t : Text) : Text := t.flatMap upperChar

/-- Whether the first character whose case is not ignored has a case. -/
def beginsCased (t : Text) : Bool :=
  match t.dropWhile fun c => inRuns caseIgnorableRuns c.toNat with
  | [] => false
  | c :: _ => inRuns casedRuns c.toNat

/-- A text in lower case, after the characters `before` in reverse. A capital sigma at the end of a
word becomes a final one. -/
def lowerFrom (before : Text) : Text → Text
  | [] => []
  | c :: t =>
    let mapped :=
      if c == 'Σ' then [if beginsCased before && !beginsCased t then 'ς' else 'σ'] else lowerChar c
    mapped ++ lowerFrom (c :: before) t

/-- A text in lower case. -/
def lower (t : Text) : Text := lowerFrom [] t

/-- A character folded for comparison without regard to case. -/
def foldChar (c : Char) : Nat := (Shift.image? c.toNat Shift.fold).getD c.toNat

/-- The code points that agree with a character when case is ignored. -/
def foldOrbit (c : Char) : List Nat := foldChar c :: Shift.sources (foldChar c) Shift.fold

example : upper "straße ŉ".toList = "STRASSE ʼN".toList := by decide +kernel
example : lower "ΟΔΟΣ ΣΑΣ'".toList = "οδος σας'".toList := by decide +kernel
example : foldOrbit 'K' = ['k'.toNat, 'K'.toNat, 0x212A] := by decide +kernel

end Text

end StructuralSearch
