import StructuralSearch.Text.Blank
import StructuralSearch.Text.Case
import StructuralSearch.Text.Word

/-!
# Sets of characters

The sets that regular expressions name, with their algebra. `CharSet.fold` closes a set under
change of letter case.
-/

namespace StructuralSearch

inductive CharSet
  | empty
  /-- The characters from one code point to another. -/
  | range (lo hi : Nat)
  /-- A set that is given by its runs. -/
  | runs (rs : List Nat)
  | complement (s : CharSet)
  | union (s t : CharSet)
  | inter (s t : CharSet)
  /-- Every character that agrees with one of the set when case is ignored. -/
  | fold (s : CharSet)
deriving DecidableEq, Repr

namespace CharSet

def contains : CharSet → Char → Bool
  | empty, _ => false
  | range lo hi, c => lo ≤ c.toNat && c.toNat ≤ hi
  | runs rs, c => Text.inRuns rs c.toNat
  | complement s, c => !s.contains c
  | union s t, c => s.contains c || t.contains c
  | inter s t, c => s.contains c && t.contains c
  | fold s, c => (Text.foldOrbit c).any fun n => s.contains (Char.ofNat n)

def single (c : Char) : CharSet := range c.toNat c.toNat

/-- The characters of the first set that are not in the second. -/
def diff (s t : CharSet) : CharSet := inter s (complement t)

/-- The characters of just one of two sets. -/
def symmDiff (s t : CharSet) : CharSet := union (diff s t) (diff t s)

/-- The characters from one to another. -/
def between (lo hi : Char) : CharSet := range lo.toNat hi.toNat

/-- The characters of all of several sets. -/
def unions (ss : List CharSet) : CharSet := ss.foldr union empty

def ofList (cs : List Char) : CharSet := unions (cs.map single)

/-- The characters in any of several intervals of code points. -/
def ofRanges (rs : List (Nat × Nat)) : CharSet := unions (rs.map fun (lo, hi) => range lo hi)

def any : CharSet := complement empty

/-- Decimal digits of all scripts. -/
def decimal : CharSet := runs Text.digitRuns

/-- Characters that can be part of a word. -/
def word : CharSet := runs Text.wordRuns

/-- White space. -/
def blank : CharSet := ofRanges Text.blankRanges

/-! ## ASCII -/

def ascii : CharSet := range 0 0x7F

def asciiDigit : CharSet := between '0' '9'

def asciiWord : CharSet :=
  unions [asciiDigit, between 'A' 'Z', between 'a' 'z', single '_']

def asciiBlank : CharSet := ofList ['\t', '\n', '\x0b', '\x0c', '\r', ' ']

/-- A set closed under change of case among ASCII characters only. -/
def asciiFold (s : CharSet) : CharSet := union s (inter (fold (inter s ascii)) ascii)

/-- The named sets of ASCII characters. -/
def named? (name : String) : Option CharSet :=
  let digits := asciiDigit
  let lowers := between 'a' 'z'
  let uppers := between 'A' 'Z'
  let letters := union uppers lowers
  let graphic := range 0x21 0x7E
  match name with
  | "alnum" => some (union digits letters)
  | "alpha" => some letters
  | "ascii" => some ascii
  | "blank" => some (ofList ['\t', ' '])
  | "cntrl" => some (union (range 0 0x1F) (range 0x7F 0x7F))
  | "digit" => some digits
  | "graph" => some graphic
  | "lower" => some lowers
  | "print" => some (range 0x20 0x7E)
  | "punct" => some (diff graphic (union digits letters))
  | "space" => some asciiBlank
  | "upper" => some uppers
  | "word" => some asciiWord
  | "xdigit" => some (union digits (union (between 'A' 'F') (between 'a' 'f')))
  | _ => none

example : (fold (between 'a' 'c')).contains 'B' = true := by decide +kernel
example : (complement (fold (single 'k'))).contains '\u212a' = false := by decide +kernel
example : (asciiFold (single 'k')).contains '\u212a' = false := by decide +kernel

end CharSet

end StructuralSearch
