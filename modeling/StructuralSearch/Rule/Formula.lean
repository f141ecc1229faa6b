import StructuralSearch.Rule.Error
import StructuralSearch.Rule.Spec
import StructuralSearch.Text.Blank

/-!
# Positions among siblings

A formula `An+B` selects the positions `A·n + B` for all `n` from zero on; a plain number selects
one position. Coefficients are 64-bit integers, and so is the distance of a position from `B`: a
position that lies further away is not selected.

Main declarations:
1. `Formula.parse`: reading a position.
2. `Formula.selects`: whether a position is selected.
-/

namespace StructuralSearch

/-- The positions `step·n + offset`. -/
structure Formula where
  step : Int
  offset : Int
deriving DecidableEq, Repr

namespace Formula

def minInteger : Int := -0x8000000000000000

def maxInteger : Int := 0x7FFFFFFFFFFFFFFF

/-- Whether an integer fits a signed 64-bit word. -/
def fits (i : Int) : Bool := minInteger ≤ i && i ≤ maxInteger

/-- Whether the position `index`, counted from one, is selected. -/
def selects (f : Formula) (index : Int) : Bool :=
  let distance := index - f.offset
  if !fits distance then false
  else if f.step = 0 then distance == 0
  else if f.step = -1 && distance == minInteger then false
  else Int.tmod distance f.step == 0 && 0 ≤ Int.tdiv distance f.step

/-- An integer with an optional sign, or one that has to be there. -/
def integer? (signRequired : Bool) (t : Text) : Option Int :=
  let read (negative : Bool) (digits : Text) : Option Int :=
    if !digits.isEmpty && digits.all Char.isDigit then
      (Scalar.natural? 10 digits).bind fun n =>
        let i : Int := if negative then -n else n
        if fits i then some i else none
    else none
  match t with
  | '+' :: digits => read false digits
  | '-' :: digits => read true digits
  | digits => if signRequired then none else read false digits

/-- The coefficient before `n`. -/
def coefficient? : Text → Option Int
  | [] | ['+'] => some 1
  | ['-'] => some (-1)
  | t => integer? false t

/-- A formula without blanks in lower case. -/
def ofCompact? (t : Text) : Option Formula :=
  match t.dropWhile (· != 'n') with
  | [] => (integer? false t).map fun offset => ⟨0, offset⟩
  | _ :: rest => do
    let step ← coefficient? (t.takeWhile (· != 'n'))
    if rest.isEmpty then some ⟨step, 0⟩ else (integer? true rest).map fun offset => ⟨step, offset⟩

/-- A formula; blanks and case do not count. -/
def ofText? (t : Text) : Option Formula :=
  ofCompact? ((t.filter fun c => !Text.isBlank c).map Char.toLower)

/-- The positions that are meant. -/
def parse : PositionSpec → Except RuleError Formula
  | .index n =>
    if (n : Int) ≤ maxInteger then .ok ⟨0, n⟩
    else .error (.invalidNthChild s!"index {n} is too large")
  | .formula text =>
    match ofText? text.toList with
    | some f => .ok f
    | none => .error (.invalidNthChild s!"malformed position '{text}'")

example : ofText? " 2N + 1".toList = some ⟨2, 1⟩ := by decide
example : ofText? "-n+3".toList = some ⟨-1, 3⟩ := by decide
example : ofText? "2n1".toList = none := by decide
example : ((⟨-1, 3⟩ : Formula).selects 3, (⟨-1, 3⟩ : Formula).selects 4) = (true, false) := by
  decide

end Formula

namespace Extent

/-- Whether one point lies before another. -/
def precedes (p q : Point) : Bool := p.line < q.line || (p.line == q.line && p.column < q.column)

/-- The extent, unless it ends before it starts. -/
def check (e : Extent) : Except RuleError Extent :=
  if precedes e.stop e.start then
    .error (.invalidRange (s!"start ({e.start.line}, {e.start.column}) is after end " ++
      s!"({e.stop.line}, {e.stop.column})"))
  else .ok e

/-- Whether a node has this extent. -/
def covers (e : Extent) (n : Node) : Bool :=
  let s := n.span
  s.start.line == e.start.line && s.start.column == e.start.column &&
    s.stop.line == e.stop.line && s.stop.column == e.stop.column

end Extent

end StructuralSearch
