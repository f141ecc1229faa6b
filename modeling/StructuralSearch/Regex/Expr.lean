import StructuralSearch.Regex.CharSet

/-!
# Regular expressions

A regular expression after its flags have been resolved: what a character is compared with is a set,
and an assertion says exactly what it asks for.
-/

namespace StructuralSearch

namespace Regex

/-- A condition on the words on both sides of a place. -/
inductive WordCondition
  | boundary
  | notBoundary
  | start
  | stop
  /-- No word goes on to here from the left. -/
  | noneBefore
  /-- No word goes on from here to the right. -/
  | noneNext
deriving DecidableEq, Repr

/-- Whether a condition holds, given whether a word is on the left and on the right. -/
def WordCondition.holds (w : WordCondition) (before next : Bool) : Bool :=
  match w with
  | boundary => before != next
  | notBoundary => before == next
  | start => !before && next
  | stop => before && !next
  | noneBefore => !before
  | noneNext => !next

/-- A condition on a place between two characters. -/
inductive Assertion
  | textStart
  | textEnd
  | lineStart
  | lineEnd
  /-- As `lineStart`, where carriage returns end lines as well, and with a line feed behind them
  are one end. -/
  | lineStartAfterReturn
  | lineEndAtReturn
  /-- A condition on words, which consist of characters of a set. -/
  | words (w : WordCondition) (set : CharSet)
deriving DecidableEq, Repr

/-- Whether a condition holds between two characters; none stands for an end of the text. -/
def Assertion.holds (a : Assertion) (before next : Option Char) : Bool :=
  match a with
  | textStart => before.isNone
  | textEnd => next.isNone
  | lineStart => before.all (· == '\n')
  | lineEnd => next.all (· == '\n')
  | lineStartAfterReturn => before.all fun c => c == '\n' || (c == '\r' && next != some '\n')
  | lineEndAtReturn => next.all fun c => c == '\r' || (c == '\n' && before != some '\r')
  | words w set => w.holds (before.any set.contains) (next.any set.contains)

inductive Expr
  | empty
  /-- One character of a set. -/
  | char (set : CharSet)
  | check (a : Assertion)
  | concat (e f : Expr)
  /-- The first alternative is preferred. -/
  | alt (e f : Expr)
  /-- At least `min` and at most `max` times; `greedy` prefers more. -/
  | repeated (e : Expr) (min : Nat) (max : Option Nat) (greedy : Bool)
  /-- A group whose place in the text is remembered. -/
  | group (index : Nat) (e : Expr)
deriving DecidableEq, Repr

/-- The least number of characters that an expression matches. -/
def Expr.minLength : Expr → Nat
  | empty => 0
  | char _ => 1
  | check _ => 0
  | concat e f => e.minLength + f.minLength
  | alt e f => min e.minLength f.minLength
  | repeated e n _ _ => n * e.minLength
  | group _ e => e.minLength

/-- Whether an expression matches nothing but the empty text. -/
def Expr.isNull : Expr → Bool
  | empty | check _ => true
  | char _ => false
  | concat e f | alt e f => e.isNull && f.isNull
  | repeated e _ max _ => e.isNull || max == some 0
  | group _ e => e.isNull

/-- An expression at least `min` and at most `max` times. What matches nothing but the empty text is
not repeated. -/
def Expr.times (e : Expr) (least : Nat) (most : Option Nat) (greedy : Bool) : Expr :=
  if e.isNull then .repeated e (min least 1) (some (min (most.getD 1) 1)) greedy
  else .repeated e least most greedy

end Regex

end StructuralSearch
