import StructuralSearch.Document.Decode
import StructuralSearch.Text.Basic

/-!
# Positions and spans

A position gives the line, the byte offset in the line and the byte offset in the text, all
counted from zero. People are shown positions counted from one.
-/

namespace StructuralSearch

/-- A place in a text. -/
structure Position where
  line : Nat
  column : Nat
  index : Nat
deriving DecidableEq, Repr

namespace Position

/-- The position that a value describes. -/
def decode (typing : Typing) (v : Value) : Decoded Position := do
  let fs ← Decode.openFields typing ["line", "column", "index"] v
  let coordinate (name : String) := Decode.required fs name (Decode.natural typing)
  return ⟨← coordinate "line", ← coordinate "column", ← coordinate "index"⟩

/-- Positions are ordered by line, then by column, then by index. -/
def le (p q : Position) : Bool :=
  p.line < q.line || (p.line == q.line &&
    (p.column < q.column || (p.column == q.column && p.index ≤ q.index)))

/-- The largest coordinate shown to people. -/
def maxShown : Nat := 4294967295

/-- Line and column counted from one, at most `maxShown`. -/
def oneBased (p : Position) : Nat × Nat := (min (p.line + 1) maxShown, min (p.column + 1) maxShown)

/-- Positions are written as line and column in parentheses. -/
def render (p : Position) : String := s!"({p.line},{p.column})"

/-- Walks over a text that begins at byte `at` of line `line`, which began at byte `lineStart`. -/
def walk (line lineStart here offset : Nat) : Text → Position
  | [] => ⟨line, offset - lineStart, offset⟩
  | c :: t =>
    if offset ≤ here then ⟨line, offset - lineStart, offset⟩
    else
      let next := here + c.utf8Size
      if c = '\n' then walk (line + 1) next next offset t else walk line lineStart next offset t

/-- The position of a byte offset: the line feeds before it and the bytes since the last one. -/
def ofOffset (t : Text) (offset : Nat) : Position := walk 0 0 0 offset t

example : ofOffset "é\nab".toList 4 = ⟨1, 1, 4⟩ := by decide
example : (⟨4294967295, 3, 0⟩ : Position).oneBased = (4294967295, 4) := by decide

end Position

/-- The text from `start` up to `stop`. -/
structure Span where
  start : Position
  stop : Position
deriving DecidableEq, Repr

namespace Span

/-- The byte offsets of both ends. -/
def bytes (s : Span) : Nat × Nat := (s.start.index, s.stop.index)

/-- Spans are written as their two ends with a hyphen between them. -/
def render (s : Span) : String := s!"{s.start.render}-{s.stop.render}"

end Span

end StructuralSearch
