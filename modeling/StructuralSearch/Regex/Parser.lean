import StructuralSearch.Regex.Bracket
import StructuralSearch.Text.Letter

/-!
# Reading regular expressions

The reader keeps the open groups on a stack and resolves flags as it goes. A flag set inside a group
holds up to the end of the group.

Main declaration: `Parser.parse`, which gives the expression of a text and the names of its groups.
-/

namespace StructuralSearch

namespace Regex

namespace Parser

/-- A piece of a sequence. -/
inductive Item
  | expr (e : Expr) (depth : Nat)
  /-- A change of flags, which cannot be repeated. -/
  | flags
deriving DecidableEq, Repr

/-- How deeply the parts of an item are nested. -/
def Item.depth : Item → Nat
  | expr _ depth => depth
  | flags => 0

/-- The alternatives of a group as far as they have been read. -/
structure Level where
  /-- The alternatives before the last `|` with their depths, in reverse. -/
  branches : List (Expr × Nat)
  /-- The sequence since then, in reverse. -/
  items : List Item
deriving DecidableEq, Repr

namespace Level

def start : Level := ⟨[], []⟩

/-- The sequence since the last `|`. -/
def sequence (l : Level) : Expr :=
  l.items.foldl (fun e item =>
    match item with
    | .expr f _ => if e = .empty then f else .concat f e
    | .flags => e) .empty

/-- How deeply the parts of this sequence are nested. -/
def sequenceDepth (l : Level) : Nat := depthOfParts (l.items.map Item.depth)

def push (l : Level) (e : Expr) (depth : Nat) : Level :=
  { l with items := .expr e depth :: l.items }

/-- Goes on with the next alternative. -/
def next (l : Level) : Level := ⟨(l.sequence, l.sequenceDepth) :: l.branches, []⟩

/-- All alternatives. -/
def expr (l : Level) : Expr := l.branches.foldl (fun e b => .alt b.1 e) l.sequence

/-- How deeply the parts of the alternatives are nested. -/
def depth (l : Level) : Nat := depthOfParts (l.sequenceDepth :: l.branches.map (·.2))

end Level

/-- A group that is still open. -/
structure OpenGroup where
  /-- The level that the group stands in. -/
  outside : Level
  /-- The flags outside of the group. -/
  flags : Flags
  /-- The number of the group, if its place is remembered. -/
  index : Option Nat

structure State where
  flags : Flags
  level : Level
  outer : List OpenGroup
  /-- The number of groups so far whose place is remembered. -/
  groups : Nat
  names : List (String × Nat)

namespace State

def start : State := ⟨{}, .start, [], 0, []⟩

/-- Goes on after an expression without parts. -/
def push (s : State) (e : Expr) : State := { s with level := s.level.push e 0 }

/-- Opens a group, with flags of its own. -/
def openGroup (s : State) (index : Option Nat) (flags : Flags) : State :=
  { s with level := .start, flags, outer := ⟨s.level, s.flags, index⟩ :: s.outer }

/-- Opens a group whose place is remembered. -/
def openNumbered (s : State) : State :=
  let index := s.groups + 1
  { s.openGroup (some index) s.flags with groups := index }

/-- Opens a group with a name. -/
def openNamed (s : State) (name : String) : State :=
  { s.openNumbered with names := s.names ++ [(name, s.groups + 1)] }

/-- Closes the innermost group. -/
def closeGroup (s : State) : Except Fault State :=
  match s.outer with
  | [] => .error .unopenedGroup
  | g :: outer =>
    let e := s.level.expr
    let e := match g.index with
      | some i => .group i e
      | none => e
    .ok { s with level := g.outside.push e (s.level.depth + 1), flags := g.flags, outer }

/-- Repeats the last item. -/
def repeatLast (s : State) (min : Nat) (max : Option Nat) (greedy : Bool) : Except Fault State :=
  match s.level.items with
  | .expr e depth :: items =>
    let repeated := .expr (e.times min max (greedy != s.flags.swapGreed)) (depth + 1)
    .ok { s with level := { s.level with items := repeated :: items } }
  | _ => .error .nothingToRepeat

end State

/-- Whether a repetition is greedy, and what follows its sign. -/
def greed : Text → Bool × Text
  | '?' :: t => (false, t)
  | t => (true, t)

/-- The largest number of repetitions that can be asked for. -/
def maxCount : Nat := 4294967295

/-- A number with blanks around it, if there is one. -/
def count? (t : Text) : Except Fault (Option Nat × Text) :=
  let t := Text.trimStart t
  let digits := t.takeWhile Char.isDigit
  let rest := Text.trimStart (t.dropWhile Char.isDigit)
  match digits with
  | [] => .ok (none, rest)
  | ds =>
    match Scalar.natural? 10 ds with
    | some n => if n ≤ maxCount then .ok (some n, rest) else .error .malformedCount
    | none => .error .malformedCount

/-- A number with blanks around it. -/
def count (t : Text) : Except Fault (Nat × Text) := do
  match ← count? t with
  | (some n, rest) => return (n, rest)
  | (none, _) => throw .malformedCount

/-- The bounds of a counted repetition after its opening brace, and what follows the last of
them. -/
def bounds (flags : Flags) (t : Text) : Except Fault ((Nat × Option Nat) × Text) := do
  if (flags.skip t).isEmpty then throw .unclosedCount
  let (least, rest) ← count? (flags.skip t)
  match least, rest with
  | _, [] => throw .unclosedCount
  | least, ',' :: rest =>
    let rest := flags.skip rest
    match least, rest with
    | _, [] => throw .unclosedCount
    | some n, '\x7d' :: _ => return ((n, none), rest)
    | some n, rest =>
      let (m, rest) ← count rest
      return ((n, some m), rest)
    | none, _ => throw .malformedCount
  | some n, rest => return ((n, some n), rest)
  | none, _ => throw .malformedCount

/-- A counted repetition after its opening brace. -/
def counted (s : State) (t : Text) : Except Fault (State × Text) := do
  if s.level.items.head?.all (· == .flags) then throw .nothingToRepeat
  let ((n, m), rest) ← bounds s.flags t
  match rest with
  | '\x7d' :: rest =>
    let (greedy, rest) := greed (s.flags.skip rest)
    if m.any (· < n) then throw .invertedCount
    return (← s.repeatLast n m greedy, rest)
  | _ => throw .unclosedCount

/-- Sets a flag by its letter. -/
def setFlag (flags : Flags) (on : Bool) : Char → Except Fault Flags
  | 'i' => .ok { flags with ignoreCase := on }
  | 'm' => .ok { flags with multiLine := on }
  | 's' => .ok { flags with dotAll := on }
  | 'U' => .ok { flags with swapGreed := on }
  | 'x' => .ok { flags with verbose := on }
  | 'R' => .ok { flags with returns := on }
  | 'u' => .ok { flags with unicode := on }
  | _ => .error .malformedFlags

/-- Letters of flags up to `:` or `)`; `negated` tells whether a hyphen came before. -/
def flagLetters (flags : Flags) (negated : Bool) (seen : List Char) :
    Text → Except Fault (Flags × List Char × Text)
  | [] => .error .malformedFlags
  | c :: t =>
    if c = ':' ∨ c = ')' then
      if seen.head? == some '-' then .error .malformedFlags else .ok (flags, seen, c :: t)
    else if c ∈ seen then .error .malformedFlags
    else if c = '-' then flagLetters flags true (c :: seen) t
    else do
      let flags ← setFlag flags (!negated) c
      flagLetters flags negated (c :: seen) t

/-- Whether a character may stand in the name of a group. -/
def isNameChar (isFirst : Bool) (c : Char) : Bool :=
  c == '_' || Text.isLetter c ||
    (!isFirst && (Text.isNumber c || c == '.' || c == '[' || c == ']'))

/-- The name of a group, and what follows the bracket after it. -/
def groupName (t : Text) : Except Fault (String × Text) :=
  let name := t.takeWhile (· != '>')
  match name, t.dropWhile (· != '>') with
  | c :: cs, _ :: rest =>
    if isNameChar true c && cs.all (isNameChar false) then .ok (String.ofList name, rest)
    else .error .malformedName
  | _, _ => .error .malformedName

/-- What follows `(?`: a look-around, a name or flags. -/
def extension (s : State) (t : Text) : Except Fault (State × Text) := do
  let named (t : Text) : Except Fault (State × Text) := do
    let (name, rest) ← groupName t
    if s.names.any (·.1 == name) then throw (.duplicateName name)
    return (s.openNamed name, rest)
  match t with
  | [] => throw .unclosedGroup
  | '=' :: _ | '!' :: _ | '<' :: '=' :: _ | '<' :: '!' :: _ => throw .lookAround
  | 'P' :: '<' :: t | '<' :: t => named t
  | t =>
    let (flags, seen, rest) ← flagLetters s.flags false [] t
    match rest with
    | ':' :: rest => return (s.openGroup none flags, rest)
    | _ =>
      if seen.isEmpty then throw .nothingToRepeat
      return ({ s with flags, level := { s.level with items := .flags :: s.level.items } },
        rest.drop 1)

/-- A group after its opening parenthesis. -/
def group (s : State) (t : Text) : Except Fault (State × Text) :=
  match s.flags.skip t with
  | '?' :: t => extension s t
  | t => .ok (s.openNumbered, t)

/-- The expression of an escape. -/
def ofEscape (flags : Flags) : Escape → Expr
  | .literal c => .char (flags.folded (.single c))
  | .set s => .char s
  | .check a => .check a

/-- One character or group of characters that is no blank. -/
def step (s : State) : Text → Except Fault (State × Text)
  | [] => .ok (s, [])
  | '(' :: t => group s t
  | ')' :: t => s.closeGroup.map (·, t)
  | '|' :: t => .ok ({ s with level := s.level.next }, t)
  | '[' :: t => (Bracket.read s.flags t).map fun (w, rest) =>
    ({ s with level := s.level.push (.char w.set) w.depth }, rest)
  | '?' :: t => let (greedy, rest) := greed t; (s.repeatLast 0 (some 1) greedy).map (·, rest)
  | '*' :: t => let (greedy, rest) := greed t; (s.repeatLast 0 none greedy).map (·, rest)
  | '+' :: t => let (greedy, rest) := greed t; (s.repeatLast 1 none greedy).map (·, rest)
  | '\x7b' :: t => counted s t
  | '\\' :: t => (Escape.read s.flags t).map fun (e, rest) => (s.push (ofEscape s.flags e), rest)
  | '.' :: t => s.flags.dot.map fun set => (s.push (.char set), t)
  | '^' :: t => .ok (s.push (.check s.flags.start), t)
  | '$' :: t => .ok (s.push (.check s.flags.stop), t)
  | c :: t => .ok (s.push (.char (s.flags.folded (.single c))), t)

/-- Reads up to the end of a text; `fuel` bounds the number of steps, each of which reads
something. -/
def loop (fuel : Nat) (s : State) (t : Text) : Except Fault State :=
  match fuel, s.flags.skip t with
  | _, [] => .ok s
  | 0, _ => .error .unclosedGroup
  | fuel + 1, t => do
    let (s, rest) ← step s t
    loop fuel s rest

/-- The expression of a text, and the names of its groups. -/
def parse (t : Text) : Except Fault (Expr × List (String × Nat)) := do
  let s ← loop (t.length + 1) .start t
  if !s.outer.isEmpty then throw .unclosedGroup
  if maxDepth < s.level.depth then throw .tooDeep
  return (s.level.expr, s.names)

example : (parse "a|b*".toList).toOption.map (·.1) =
    some (.alt (.char (.single 'a')) (.repeated (.char (.single 'b')) 0 none true)) := by
  decide +kernel
example : (parse "a\x7b2,1\x7d".toList).toOption.isNone = true := by decide +kernel
example : (parse "(?=a)".toList).toOption.isNone = true := by decide +kernel
example : (parse "(?-u:\\w)\\W".toList).toOption.isSome = true := by decide +kernel
example : (parse "(?-u:\\W)".toList).toOption.isNone = true := by decide +kernel

end Parser

end Regex

end StructuralSearch
