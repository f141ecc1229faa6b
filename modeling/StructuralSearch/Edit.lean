import StructuralSearch.Text.Basic

/-!
# Edits and their commit

An edit replaces a span of bytes of a source text. A list of edits is committed against a part of
the source that begins at the byte `base`: every edit is checked first, then the edits are taken
from the highest start downwards, all against the unchanged text. An edit that reaches into a span
already replaced is dropped.

Main declarations:
1. `Edit.locate`: the span of an edit within the part, or why it has none.
2. `Edit.kept`: the edits that are applied, from the last to the first.
3. `Edit.splice`: a text with the kept edits applied.
4. `Edit.commit`: the three steps together.
-/

namespace StructuralSearch

/-- A replacement of the bytes from `start` up to `stop` of a source text. -/
structure Edit where
  start : Nat
  stop : Nat
  inserted : Text
deriving DecidableEq, Repr

/-- Why an edit cannot be applied. -/
inductive EditFault
  | inverted (start stop : Nat)
  | outside (start stop base limit : Nat)
  | splitsCharacter (start stop : Nat)
deriving DecidableEq, Repr

namespace EditFault

def message : EditFault → String
  | inverted start stop => s!"edit start {start} is after its end {stop}"
  | outside start stop base limit =>
    s!"edit {start}..{stop} lies outside the text at {base}..{limit}"
  | splitsCharacter start stop => s!"edit {start}..{stop} is not on a UTF-8 character boundary"

end EditFault

namespace Edit

/-- The number of bytes that an edit removes. -/
def deletedLength (e : Edit) : Nat := e.stop - e.start

/-- The number of offsets; arithmetic on offsets wraps around at it. -/
def offsetModulus : Nat := 0x10000000000000000

/-- Moves both offsets of an edit. -/
def shift (e : Edit) (byStart byStop : Int) : Edit :=
  { e with
    start := ((e.start + byStart) % offsetModulus).toNat
    stop := ((e.stop + byStop) % offsetModulus).toNat }

/-- The edit with its offsets counted from `base`, or why it cannot be applied to the text that
begins there. -/
def locate (text : Text) (base : Nat) (e : Edit) : Except EditFault Edit :=
  if e.stop < e.start then .error (.inverted e.start e.stop)
  else if e.start < base ∨ base + text.byteLength < e.stop then
    .error (.outside e.start e.stop base (base + text.byteLength))
  else if text.isBoundary (e.start - base) && text.isBoundary (e.stop - base) then
    .ok ⟨e.start - base, e.stop - base, e.inserted⟩
  else .error (.splitsCharacter e.start e.stop)

/-- Edits in descending order of their starts; those with equal starts keep their order. -/
def descending (edits : List Edit) : List Edit := edits.foldr insertDescending []
where
  insertDescending (e : Edit) : List Edit → List Edit
    | [] => [e]
    | f :: rest => if f.start ≤ e.start then e :: f :: rest else f :: insertDescending e rest

/-- The edits that end at or before `limit` and, one after the other, before the start of the last
one kept. -/
def kept (limit : Nat) : List Edit → List Edit
  | [] => []
  | e :: rest => if e.stop ≤ limit then e :: kept e.start rest else kept limit rest

/-- The first `limit` bytes of a text with edits applied, given from the last to the first. -/
def splice (text : Text) (limit : Nat) : List Edit → Text
  | [] => (text.takeBytes? limit).getD []
  | e :: rest => splice text e.start rest ++ e.inserted ++ (text.slice? e.stop limit).getD []

/-- Applies edits to the part `text` of a source, which begins at the byte `base`. -/
def commit (text : Text) (base : Nat) (edits : List Edit) : Except EditFault Text := do
  let located ← edits.mapM (locate text base)
  return splice text text.byteLength (kept text.byteLength (descending located))

example : (commit "abcdef".toList 0 [⟨1, 3, ['X']⟩, ⟨1, 2, ['Y']⟩]).toOption =
    some "aXdef".toList := by decide
example : (commit "abcdef".toList 0 [⟨2, 5, []⟩, ⟨1, 4, ['X']⟩]).toOption =
    some "abf".toList := by decide
example : (commit "a + b".toList 8 [⟨12, 13, ['x']⟩]).toOption = some "a + x".toList := by decide

end Edit

end StructuralSearch
