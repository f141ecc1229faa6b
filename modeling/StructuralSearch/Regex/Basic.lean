import StructuralSearch.Regex.Parser
import StructuralSearch.Regex.Program
import StructuralSearch.Regex.Size

/-!
# Searching and replacing with regular expressions

A search finds the leftmost match, and of those that begin there the preferred one. Replacing goes
on after each match; an empty match directly after another match is passed over.

Main declarations:
1. `Regex.compile`: the regular expression of a text.
2. `Regex.isMatch`: whether it matches somewhere.
3. `Regex.replaceAll`: every match replaced, with references to groups.
-/

namespace StructuralSearch

/-- A regular expression that is ready to be run. -/
structure Regex where
  source : Text
  program : Regex.Program
  /-- The numbers of the groups with names. -/
  names : List (String × Nat)

namespace Regex

/-- The regular expression of a text. -/
def compile (source : Text) : Except Fault Regex := do
  let (e, names) ← Parser.parse source
  if maxSize < e.size then throw .tooLarge
  return ⟨source, .ofExpr (.group 0 e), names⟩

/-- The match that begins at a place of a text. -/
def matchAt (r : Regex) (offset : Nat) (before : Option Char) (t : Text) : Option Slots :=
  r.program.run offset before [⟨0, []⟩] none t

/-- Whether there is a match in what follows a character. -/
def isMatchFrom (r : Regex) (offset : Nat) (before : Option Char) : Text → Bool
  | [] => (r.matchAt offset before []).isSome
  | c :: t => (r.matchAt offset before (c :: t)).isSome || isMatchFrom r (offset + 1) (some c) t

/-- Whether there is a match in a text. -/
def isMatch (r : Regex) (t : Text) : Bool := isMatchFrom r 0 none t

/-- The text of a group, if it took part in the match. -/
def groupText (whole : Text) (slots : Slots) (index : Nat) : Text :=
  match slots.lookup (2 * index), slots.lookup (2 * index + 1) with
  | some start, some stop => (whole.drop start).take (stop - start)
  | _, _ => []

/-! ## References to groups -/

/-- A piece of a replacement. -/
inductive Piece
  | literal (c : Char)
  | group (index : Nat)
  | named (name : String)
deriving DecidableEq, Repr

namespace Piece

/-- The piece that refers to a group by number or name. -/
def ofReference (t : Text) : Piece :=
  let digits := match t with
    | '+' :: ds => ds
    | ds => ds
  if !digits.isEmpty && digits.all Char.isDigit then
    match Scalar.natural? 10 digits with
    | some n => if n < 0x10000000000000000 then group n else named (String.ofList t)
    | none => named (String.ofList t)
  else named (String.ofList t)

/-- Whether a character belongs to a reference without braces. -/
def isReferenceChar (c : Char) : Bool := c.isAlphanum || c == '_'

/-- The piece at the front of a replacement, and what follows it. -/
def next (c : Char) (t : Text) : Piece × Text :=
  if c != '$' then (literal c, t)
  else
    match t with
    | '$' :: rest => (literal '$', rest)
    | '\x7b' :: rest =>
      match rest.dropWhile (· != '\x7d') with
      | [] => (literal '$', t)
      | _ :: after => (ofReference (rest.takeWhile (· != '\x7d')), after)
    | t =>
      let name := t.takeWhile isReferenceChar
      if name.isEmpty then (literal '$', t) else (ofReference name, t.dropWhile isReferenceChar)

theorem length_next_le (c : Char) (t : Text) : (next c t).2.length ≤ t.length := by
  unfold next
  split
  · simp
  · split
    · simp
    · rename_i rest
      have h := (List.dropWhile_sublist (l := rest) (· != '\x7d')).length_le
      split
      · simp
      · rename_i hd
        rw [hd] at h
        simp only [List.length_cons] at h ⊢
        omega
    · dsimp only
      split
      · simp
      · exact (List.dropWhile_sublist _).length_le

/-- The pieces of a replacement. -/
def parse : Text → List Piece
  | [] => []
  | c :: t => (next c t).1 :: parse (next c t).2
termination_by t => t.length
decreasing_by
  have := length_next_le c t
  simp only [List.length_cons]
  omega

/-- The text of a piece. An unknown group has none. -/
def expand (names : List (String × Nat)) (whole : Text) (slots : Slots) : Piece → Text
  | literal c => [c]
  | group i => groupText whole slots i
  | named name => ((names.lookup name).map (groupText whole slots)).getD []

end Piece

/-- What follows `offset` with every match replaced; `touching` tells whether a match ended here. -/
def replaceFrom (r : Regex) (whole : Text) (pieces : List Piece) (offset : Nat)
    (before : Option Char) (touching : Bool) (t : Text) : Text :=
  let found := (r.matchAt offset before t).bind fun slots =>
    (slots.lookup 1).bind fun stop =>
      if stop == offset && touching then none else some (slots, stop - offset)
  let expanded := (found.map fun (slots, _) =>
    pieces.flatMap (Piece.expand r.names whole slots)).getD []
  let length := (found.map (·.2)).getD 0
  match t with
  | [] => expanded
  | c :: rest =>
    if length == 0 then
      expanded ++ c :: replaceFrom r whole pieces (offset + 1) (some c) false rest
    else
      expanded ++ replaceFrom r whole pieces (offset + length)
        ((c :: rest)[length - 1]?) true (rest.drop (length - 1))
termination_by t.length
decreasing_by
  · simp
  · simp only [List.length_drop, List.length_cons]; omega

/-- A text with every match replaced. -/
def replaceAll (r : Regex) (replacement : Text) (t : Text) : Text :=
  replaceFrom r t (Piece.parse replacement) 0 none false t

end Regex

end StructuralSearch
