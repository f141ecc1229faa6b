import StructuralSearch.Language

/-!
# Metavariables in patterns and templates

A metavariable is written as sigils and a name: one sigil for a single node (`$NAME`), three for a
run of siblings (`$$$NAME`). A name consists of ASCII capitals, ASCII digits and `_`. The name `_`
and a bare `$$$` match without capturing.

Main declarations:
1. `Segment.split`: a text as literal pieces, metavariables and malformed runs of sigils.
2. `Metavariable.ofReference?`: a text that is exactly one named metavariable.
3. `Placeholder.encode`, `Placeholder.decode?`: the identifier that stands for a metavariable while
   a pattern is parsed, and the way back.
-/

namespace StructuralSearch

/-- How much a metavariable matches. -/
inductive Arity
  /-- One named node. -/
  | single
  /-- A run of siblings, possibly empty. -/
  | multiple
deriving DecidableEq, Repr

/-- An occurrence of a metavariable in a text. -/
structure Metavariable where
  name : String
  arity : Arity
  /-- The byte offset of the first sigil. -/
  offset : Nat
deriving DecidableEq, Repr

namespace Metavariable

/-- The name that matches without capturing. -/
def anonymous : String := "_"

/-- Whether a character may stand in a name. -/
def isNameChar (c : Char) : Bool := c.isUpper || c.isDigit || c == '_'

end Metavariable

/-- Why a run of sigils is no metavariable. -/
inductive Malformation
  | noName (offset : Nat)
  | sigilCount (offset : Nat) (sigil : Char) (count : Nat)
deriving DecidableEq, Repr

namespace Malformation

def message : Malformation → String
  | noName offset => s!"metavariable at offset {offset} has no valid name"
  | sigilCount offset sigil count =>
    s!"metavariable at offset {offset} has invalid '{sigil}' prefix length ({count})"

end Malformation

/-- A piece of a pattern or template. -/
inductive Segment
  | literal (text : Text)
  | metavariable (var : Metavariable)
  | malformed (text : Text) (why : Malformation)
deriving DecidableEq, Repr

namespace Segment

/-- The segment of a run of `count` sigils at `offset` that is followed by the name `name`. -/
def ofRun (sigil : Char) (offset count : Nat) (name : Text) : Segment :=
  match count, name.isEmpty with
  | 1, false => .metavariable ⟨String.ofList name, .single, offset⟩
  | 3, false => .metavariable ⟨String.ofList name, .multiple, offset⟩
  | 3, true => .metavariable ⟨Metavariable.anonymous, .multiple, offset⟩
  | 1, true => .malformed [sigil] (.noName offset)
  | n, _ => .malformed (List.replicate n sigil ++ name) (.sigilCount offset sigil n)

/-- A literal piece, unless it is empty. -/
def ofLiteral (text : Text) : List Segment := if text.isEmpty then [] else [.literal text]

/-- The segments of a text that begins at byte `offset`. Each run of sigils is read together with
the name characters that follow it. -/
def splitFrom (sigil : Char) (offset : Nat) (t : Text) : List Segment :=
  let literal := t.takeWhile (· != sigil)
  match _h : t.dropWhile (· != sigil) with
  | [] => ofLiteral literal
  | c :: rest =>
    let count := ((c :: rest).takeWhile (· == sigil)).length
    let afterRun := rest.dropWhile (· == sigil)
    let name := afterRun.takeWhile Metavariable.isNameChar
    let start := offset + Text.byteLength literal
    ofLiteral literal ++ ofRun sigil start count name ::
      splitFrom sigil (start + count * sigil.utf8Size + Text.byteLength name)
        (afterRun.dropWhile Metavariable.isNameChar)
termination_by t.length
decreasing_by
  have h1 : (t.dropWhile (· != sigil)).length ≤ t.length := (List.dropWhile_sublist _).length_le
  have h2 : (rest.dropWhile (· == sigil)).length ≤ rest.length :=
    (List.dropWhile_sublist _).length_le
  have h3 := (List.dropWhile_sublist (l := rest.dropWhile (· == sigil))
    Metavariable.isNameChar).length_le
  simp only [_h, List.length_cons] at h1
  omega

/-- The segments of a text. -/
def split (sigil : Char) (t : Text) : List Segment := splitFrom sigil 0 t

end Segment

namespace Metavariable

/-- The metavariable of a text that is nothing but one named reference. -/
def ofReference? (sigil : Char) (t : Text) : Option Metavariable :=
  match Segment.split sigil t with
  | [.metavariable var] => if var.name = anonymous then none else some var
  | _ => none

example : ofReference? '$' "$$$ARGS".toList = some ⟨"ARGS", .multiple, 0⟩ := by decide +kernel
example : ofReference? '$' "$A$B".toList = none := by decide +kernel
example : ofReference? '$' "$_".toList = none := by decide +kernel

end Metavariable

/-! ## Placeholders -/

namespace Placeholder

/-- The word that opens a placeholder between its expandos and its name. -/
def tag : Arity → Text
  | .single => "HEDDLE_MV_".toList
  | .multiple => "HEDDLE_MVS_".toList

/-- The identifier that stands for a metavariable: two expandos, the tag, the name and two
expandos. -/
def encode (expando : Char) (name : String) (arity : Arity) : Text :=
  [expando, expando] ++ tag arity ++ name.toList ++ [expando, expando]

/-- The name between the tag and the closing expandos. -/
def name? (expando : Char) (arity : Arity) (rest : Text) : Option (String × Arity) := do
  let body ← List.isPrefixOf? (tag arity) rest
  let closing ← List.isPrefixOf? [expando, expando] body.reverse
  let name := closing.reverse
  if !name.isEmpty && name.all Metavariable.isNameChar then some (String.ofList name, arity)
  else none

/-- The metavariable that an identifier stands for. A text that opens with the tag of a run is read
as a run or not at all. -/
def decode? (expando : Char) (t : Text) : Option (String × Arity) := do
  let rest ← List.isPrefixOf? [expando, expando] t
  if (tag .multiple).isPrefixOf rest then name? expando .multiple rest
  else name? expando .single rest

example : decode? '_' (encode '_' "ARGS" .multiple) = some ("ARGS", .multiple) := by decide
example : decode? '_' "__init__".toList = none := by decide

end Placeholder

end StructuralSearch
