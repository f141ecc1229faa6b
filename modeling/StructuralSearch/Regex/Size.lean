import StructuralSearch.Regex.Expr
import StructuralSearch.Text.Utf8

/-!
# The size of regular expressions

An expression is refused when a program for it that reads bytes would be too large. What counts is
the program that reads a text backwards: there, the sequences of bytes of a set share their first
bytes.

Main declarations:
1. `CharSet.ranges`: the intervals of a set.
2. `Expr.size`: the number of bytes that a program takes.
-/

namespace StructuralSearch

namespace CharSet

/-- The largest code point. -/
def maxCode : Nat := 0x10FFFF

/-- The intervals that begin with one and go on with others in order, those that touch joined. -/
def joined (lo hi : Nat) : List (Nat × Nat) → List (Nat × Nat)
  | [] => [(lo, hi)]
  | (a, b) :: rest => if a ≤ hi + 1 then joined lo (max hi b) rest else (lo, hi) :: joined a b rest

/-- The intervals in order, those that touch joined. -/
def normal (rs : List (Nat × Nat)) : List (Nat × Nat) :=
  match rs.mergeSort fun r s => r.1 ≤ s.1 with
  | [] => []
  | (lo, hi) :: rest => joined lo hi rest

/-- The intervals from `n` on between intervals in order. -/
def gaps (n : Nat) : List (Nat × Nat) → List (Nat × Nat)
  | [] => if n ≤ maxCode then [(n, maxCode)] else []
  | (lo, hi) :: rest => if n < lo then (n, lo - 1) :: gaps (hi + 1) rest else gaps (hi + 1) rest

/-- The intervals of a set that is given by runs, after `n` code points. -/
def ofRuns (n : Nat) : List Nat → List (Nat × Nat)
  | outside :: inside :: rest =>
    (n + outside, n + outside + inside - 1) :: ofRuns (n + outside + inside) rest
  | _ => []

/-- The intervals of the characters that agree with some when case is ignored. Many characters are
taken to be closed under change of case. -/
def foldRanges (rs : List (Nat × Nat)) : List (Nat × Nat) :=
  if 256 < (rs.map fun (lo, hi) => hi + 1 - lo).foldl (· + ·) 0 then rs
  else
    let members := rs.flatMap fun (lo, hi) => List.range' lo (hi + 1 - lo)
    normal ((members.flatMap fun n => Text.foldOrbit (Char.ofNat n)).map fun n => (n, n))

/-- The intervals of a set in order. -/
def ranges : CharSet → List (Nat × Nat)
  | empty => []
  | range lo hi => if hi < lo then [] else [(lo, hi)]
  | runs rs => ofRuns 0 rs
  | complement s => gaps 0 s.ranges
  | union s t => normal (s.ranges ++ t.ranges)
  | inter s t => gaps 0 (normal (gaps 0 s.ranges ++ gaps 0 t.ranges))
  | fold s => foldRanges s.ranges

example : (diff any (between 'a' 'c')).ranges = [(0, 0x60), (0x64, 0x10FFFF)] := by decide +kernel

end CharSet

namespace Regex

/-- The length of the longest common beginning of two sequences. -/
def sharedLength : Utf8.Sequence → Utf8.Sequence → Nat
  | a :: s, b :: t => if a = b then sharedLength s t + 1 else 0
  | _, _ => 0

/-- The number of different beginnings of some sequences in order. -/
def countBeginnings (before : Utf8.Sequence) : List Utf8.Sequence → Nat
  | [] => 0
  | s :: rest => s.length - sharedLength before s + countBeginnings s rest

/-- The size of a place in a program. -/
def placeSize : Nat := 32

/-- The size of the places for one character of some intervals. -/
def setSize (rs : List (Nat × Nat)) : Nat :=
  match rs with
  | [] => placeSize
  | [(lo, hi)] =>
    if lo = hi then placeSize * (Char.ofNat lo).utf8Size else setSizeOf rs
  | rs => setSizeOf rs
where
  /-- The size for more than one character. -/
  setSizeOf (rs : List (Nat × Nat)) : Nat :=
    if rs.all (·.2 < 0x80) then 2 * placeSize + 8 * rs.length
    else
      let sequences := rs.flatMap fun (lo, hi) => Utf8.sequences lo hi
      placeSize * (2 + countBeginnings [] sequences) + 4 * sequences.length

/-- The set of an expression that matches one character. -/
def Expr.set? : Expr → Option CharSet
  | char s => some s
  | alt e f => do return .union (← e.set?) (← f.set?)
  | _ => none

/-- The number of bytes that a program for an expression takes. -/
def Expr.size : Expr → Nat
  | empty | check _ => placeSize
  | char s => setSize s.ranges
  | concat e f => e.size + f.size
  | alt e f =>
    match e.set?, f.set? with
    | some s, some t => setSize (CharSet.union s t).ranges
    | _, _ => e.size + f.size + (if f matches .alt _ _ then 4 else 2 * placeSize + 8)
  | repeated e n none _ => max n 1 * e.size + placeSize + 8
  | repeated e n (some m) _ =>
    if m = 0 then placeSize
    else if n = m then n * e.size
    else n * e.size + placeSize + (m - n) * (e.size + placeSize + 8)
  | group _ e => e.size + 2 * placeSize

example : (Expr.char (.between 'a' 'z')).size = 72 := by decide +kernel
example : (Expr.repeated (.char (.single 'é')) 2 (some 3) true).size = 264 := by decide +kernel

end Regex

end StructuralSearch
