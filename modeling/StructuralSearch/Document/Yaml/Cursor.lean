import StructuralSearch.Text.Basic

/-!
# Places in a YAML text

A cursor is a place in a text with what follows it. Lines end with a line feed; blanks are spaces
and tabs.

Main declarations:
1. `Yaml.Cursor`, `Cursor.next`: places and the way from one to the next.
2. `Cursor.toContent?`: over blanks and a comment.
3. `Cursor.marker?`: the marks between documents.
-/

namespace StructuralSearch

namespace Yaml

def isSpace (c : Char) : Bool := c == ' ' || c == '\t'

/-- Whether a character is a bracket or a comma, which end a plain scalar in brackets. -/
def isFlowIndicator (c : Char) : Bool :=
  c == '[' || c == ']' || c == '\x7b' || c == '\x7d' || c == ','

/-- Whether a line ends here. -/
def atLineEnd : Text → Bool
  | [] => true
  | c :: _ => c == '\n'

/-- Whether a line ends here, or a blank follows. -/
def atGap : Text → Bool
  | [] => true
  | c :: _ => isSpace c || c == '\n'

/-- A place in a text. -/
structure Cursor where
  rest : Text
  line : Nat
  column : Nat
  /-- The number of characters before it. -/
  index : Nat
  /-- Whether there are only blanks before it in its line. -/
  fresh : Bool
deriving DecidableEq, Repr

namespace Cursor

def ofText (t : Text) : Cursor := ⟨t, 0, 0, 0, true⟩

/-- Over some characters that are blanks or belong to a comment. -/
def skip (c : Cursor) (n : Nat) : Cursor :=
  { c with rest := c.rest.drop n, column := c.column + n, index := c.index + n }

/-- Over some characters of a line. -/
def advance (c : Cursor) (n : Nat) : Cursor := { c.skip n with fresh := false }

/-- Over a line break. -/
def nextLine (c : Cursor) : Cursor := ⟨c.rest.drop 1, c.line + 1, 0, c.index + 1, true⟩

def overBlanks (c : Cursor) : Cursor := c.skip (c.rest.takeWhile isSpace).length

def overComment (c : Cursor) : Cursor := c.skip (c.rest.takeWhile (· != '\n')).length

/-- Over blanks and a comment; a comment needs a blank before it. -/
def toContent? (c : Cursor) : Option Cursor :=
  let d := c.overBlanks
  if d.rest.head? != some '#' then some d
  else if d.column = c.column then none
  else some d.overComment

/-- The character that is written three times here, if that separates documents. -/
def marker? (c : Cursor) : Option Char :=
  match c.rest with
  | '-' :: '-' :: '-' :: t => if atGap t then some '-' else none
  | '.' :: '.' :: '.' :: t => if atGap t then some '.' else none
  | _ => none

example : (ofText "  # x\ny".toList).toContent?.map (·.column) = some 5 := by decide
example : (ofText "# x".toList).toContent? = none := by decide
example : (ofText "--- a".toList).marker? = some '-' := by decide

end Cursor

end Yaml

end StructuralSearch
