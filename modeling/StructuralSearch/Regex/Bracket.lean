import StructuralSearch.Regex.Escape

/-!
# Sets in brackets

A bracket lists characters, ranges, escapes and further brackets; `&&`, `--` and `~~` join what
stands before and after them. Case is folded before a set is complemented, so `[^a]` without regard
to case matches neither `a` nor `A`.

`Bracket.read` reads what follows an opening bracket.
-/

namespace StructuralSearch

namespace Regex

/-- What joins the operands of a bracket. -/
inductive SetOperator
  | intersection
  | difference
  | symmetricDifference
deriving DecidableEq, Repr

def SetOperator.apply (o : SetOperator) (s t : CharSet) : CharSet :=
  match o with
  | intersection => .inter s t
  | difference => .diff s t
  | symmetricDifference => .symmDiff s t

/-- The depth of parts in a row with these depths: a single part is as deep as itself. -/
def depthOfParts : List Nat → Nat
  | [] => 0
  | [d] => d
  | ds => ds.foldl max 0 + 1

/-- A set as it is written: what it holds, and how deeply its parts are nested. -/
structure WrittenSet where
  set : CharSet
  depth : Nat
deriving DecidableEq, Repr

/-- A bracket that is still open. -/
structure Bracket where
  negated : Bool
  /-- What stands before the last operator. -/
  left : Option (WrittenSet × SetOperator)
  /-- What has been read since. -/
  operand : CharSet
  /-- How deeply the parts of the operand are nested. -/
  depths : List Nat
deriving DecidableEq, Repr

namespace Bracket

/-- The set of what has been read. -/
def written (flags : Flags) (b : Bracket) : WrittenSet :=
  let depth := depthOfParts b.depths
  match b.left with
  | none => ⟨b.operand, depth⟩
  | some (left, o) =>
    ⟨o.apply (flags.folded left.set) (flags.folded b.operand), max left.depth depth + 1⟩

/-- The set of a bracket that is closed now. -/
def closed (flags : Flags) (b : Bracket) : Except Fault WrittenSet := do
  let w := b.written flags
  return ⟨← flags.signed b.negated (flags.folded w.set), w.depth + 1⟩

def add (b : Bracket) (w : WrittenSet) : Bracket :=
  { b with operand := .union b.operand w.set, depths := w.depth :: b.depths }

/-- Adds what is no bracket itself. -/
def addFlat (b : Bracket) (s : CharSet) : Bracket := b.add ⟨s, 0⟩

/-- Goes on after an operator. -/
def join (flags : Flags) (b : Bracket) (o : SetOperator) : Bracket :=
  { b with left := some (b.written flags, o), operand := .empty, depths := [] }

/-- The bracket after its opening character, and what follows its first characters: hyphens, or
else a closing bracket, stand for themselves there. -/
def start (flags : Flags) (t : Text) : Bracket × Text :=
  let t := flags.skip t
  let (negated, t) := match t with
    | '^' :: rest => (true, flags.skip rest)
    | t => (false, t)
  let hyphens := t.takeWhile (· == '-')
  let b : Bracket := ⟨negated, none, .ofList hyphens, hyphens.map fun _ => 0⟩
  match t.dropWhile (· == '-') with
  | ']' :: rest => if hyphens.isEmpty then (b.addFlat (.single ']'), rest) else (b, ']' :: rest)
  | rest => (b, rest)

/-- A named set, such as `[:alpha:]`, after its opening bracket, and whether its complement is
meant. -/
def named? (t : Text) : Option ((Bool × CharSet) × Text) := do
  let t ← List.isPrefixOf? [':'] t
  let (negated, t) := match t with
    | '^' :: rest => (true, rest)
    | t => (false, t)
  let rest ← List.isPrefixOf? [':', ']'] (t.dropWhile (· != ':'))
  let s ← CharSet.named? (String.ofList (t.takeWhile (· != ':')))
  return ((negated, s), rest)

/-- A character or an escape. -/
def item (flags : Flags) : Text → Except Fault (Escape × Text)
  | [] => .error .unclosedBracket
  | '\\' :: t => Escape.read flags t
  | c :: t => .ok (.literal c, t)

/-- A character of a bracket, which is a byte where bytes count. -/
def member (flags : Flags) (c : Char) : Except Fault Char :=
  if !flags.unicode && 0x7F < c.toNat then .error .beyondAscii else .ok c

def itemSet (flags : Flags) : Escape → Except Fault CharSet
  | .literal c => CharSet.single <$> member flags c
  | .set s => .ok s
  | .check _ => .error .notACharacter

/-- A character, an escape or a range. -/
def range (flags : Flags) (t : Text) : Except Fault (CharSet × Text) := do
  let (first, rest) ← item flags t
  match flags.skip rest with
  | '-' :: after =>
    let after := flags.skip after
    if after.head? == some ']' || after.head? == some '-' then
      return (← itemSet flags first, '-' :: after)
    let (second, rest) ← item flags after
    match first, second with
    | .literal lo, .literal hi =>
      if hi < lo then throw .invertedRange
      return (.between (← member flags lo) (← member flags hi), rest)
    | _, _ => throw .notACharacter
  | rest => return (← itemSet flags first, rest)

/-- What follows the innermost of several open brackets; `fuel` bounds the number of steps, each of
which reads something. -/
def loop (flags : Flags) (fuel : Nat) (b : Bracket) (outer : List Bracket) (t : Text) :
    Except Fault (WrittenSet × Text) :=
  match fuel with
  | 0 => .error .unclosedBracket
  | fuel + 1 =>
    match flags.skip t with
    | [] => .error .unclosedBracket
    | ']' :: rest => do
      let w ← b.closed flags
      match outer with
      | [] => return (w, rest)
      | parent :: outer => loop flags fuel (parent.add w) outer rest
    | '[' :: rest =>
      match named? rest with
      | some ((negated, s), rest) => do
        loop flags fuel (b.addFlat (← flags.signed negated (flags.folded s))) outer rest
      | none =>
        let (inner, rest) := start flags rest
        loop flags fuel inner (b :: outer) rest
    | '&' :: '&' :: rest => loop flags fuel (b.join flags .intersection) outer rest
    | '-' :: '-' :: rest => loop flags fuel (b.join flags .difference) outer rest
    | '~' :: '~' :: rest => loop flags fuel (b.join flags .symmetricDifference) outer rest
    | t => do
      let (s, rest) ← range flags t
      loop flags fuel (b.addFlat s) outer rest

/-- The set of a bracket, and what follows it. -/
def read (flags : Flags) (t : Text) : Except Fault (WrittenSet × Text) :=
  let (b, rest) := start flags t
  loop flags (rest.length + 1) b [] rest

end Bracket

end Regex

end StructuralSearch
