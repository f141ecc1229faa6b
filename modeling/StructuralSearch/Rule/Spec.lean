import StructuralSearch.Pattern.Basic
import StructuralSearch.Transform.Spec

/-!
# Rules as written

A rule is a list of clauses that a node has to satisfy all together. The clauses stand in the order
in which they are evaluated: those on the node alone first, then combinations of rules, then
relations to other nodes. `stopBy` and `field` say how the relation that a rule is the target of
searches.

Main declarations:
1. `RuleSpec`, `Clause`: rules and their clauses.
2. `RuleDocument`: a rule with what refines and follows its matches.
3. `RuleSpec.encode`, `RuleDocument.encode`: the values that describe them.
-/

namespace StructuralSearch

/-- Where the nodes related to a node are. -/
inductive Relation
  /-- Above. -/
  | inside
  /-- Below. -/
  | has
  /-- After. -/
  | precedes
  /-- Before. -/
  | follows
deriving DecidableEq, Repr

namespace Relation

def name : Relation → String
  | inside => "inside"
  | has => "has"
  | precedes => "precedes"
  | follows => "follows"

/-- Whether the relation may be required to go through a field. -/
def takesField : Relation → Bool
  | inside | has => true
  | precedes | follows => false

end Relation

/-- How far a search for related nodes goes. -/
inductive StopBy (ρ : Type)
  /-- One step. -/
  | neighbor
  /-- As far as the tree reaches. -/
  | toEnd
  /-- As long as the nodes on the way satisfy a rule. -/
  | rule (r : ρ)
deriving Repr

/-- A pattern as written. -/
inductive PatternSpec
  | source (text : String)
  | contextual (context : String) (selector : Option String) (strictness : Option Strictness)
deriving DecidableEq, Repr

/-- A position among siblings as written. -/
inductive PositionSpec
  | index (n : Nat)
  | formula (text : String)
deriving DecidableEq, Repr

/-- A position with what it counts. -/
inductive NthChildSpec (ρ : Type)
  | bare (position : PositionSpec)
  | full (position : PositionSpec) (ofRule : Option ρ) (reverse : Bool)
deriving Repr

/-- A line and a byte column, counted from zero. -/
structure Point where
  line : Nat
  column : Nat
deriving DecidableEq, Repr

/-- The extent of a node. -/
structure Extent where
  start : Point
  stop : Point
deriving DecidableEq, Repr

mutual

inductive RuleSpec
  | mk (clauses : List Clause) (stopBy : Option (StopBy RuleSpec)) (field : Option String)

inductive Clause
  | pattern (p : PatternSpec)
  | kind (name : String)
  | regex (source : String)
  | nthChild (spec : NthChildSpec RuleSpec)
  | range (extent : Extent)
  | all (rules : List RuleSpec)
  | any (rules : List RuleSpec)
  | not (rule : RuleSpec)
  /-- A utility rule by its name. -/
  | util (name : String)
  | relation (r : Relation) (target : RuleSpec)

end

namespace RuleSpec

def clauses : RuleSpec → List Clause
  | mk cs _ _ => cs

def stopBy : RuleSpec → Option (StopBy RuleSpec)
  | mk _ stop _ => stop

def field : RuleSpec → Option String
  | mk _ _ f => f

/-- A rule with one clause. -/
def only (c : Clause) : RuleSpec := mk [c] none none

/-- The rule that asks for nothing. -/
def empty : RuleSpec := mk [] none none

/-- Whether a rule asks for nothing. -/
def isEmpty (r : RuleSpec) : Bool := r.clauses.isEmpty

instance : Inhabited RuleSpec := ⟨empty⟩

end RuleSpec

/-- A rule with what refines and follows its matches. -/
structure RuleDocument where
  rule : RuleSpec
  /-- What captured nodes have to satisfy. -/
  constraints : NameMap RuleSpec
  /-- Rules that other rules refer to by name. -/
  utils : NameMap RuleSpec
  transforms : NameMap TransformSpec
  /-- The template that replaces matches. -/
  fix : Option String

namespace RuleDocument

/-- A rule and nothing else. -/
def ofRule (rule : RuleSpec) : RuleDocument := ⟨rule, .empty, .empty, .empty, none⟩

end RuleDocument

/-! ## Values that describe rules -/

def textEntry (key : String) (s : Option String) : List (String × Value) :=
  s.toList.map fun s => (key, .text s)

namespace PatternSpec

def encode : PatternSpec → Value
  | source s => .text s
  | contextual context selector strictness =>
    .record (("context", .text context) ::
      (textEntry "selector" selector ++ textEntry "strictness" (strictness.map Strictness.name)))

end PatternSpec

namespace PositionSpec

def encode : PositionSpec → Value
  | index n => .integer n
  | formula s => .text s

end PositionSpec

namespace Point

def encode (p : Point) : Value :=
  .record [("line", .integer p.line), ("column", .integer p.column)]

end Point

namespace Extent

def encode (e : Extent) : Value := .record [("start", e.start.encode), ("end", e.stop.encode)]

end Extent

mutual

/-- The value that describes a rule. -/
def RuleSpec.encode : RuleSpec → Value
  | .mk cs stop field =>
    .record (RuleSpec.encodeClauses cs ++ RuleSpec.encodeStop stop ++ textEntry "field" field)

def RuleSpec.encodeStop : Option (StopBy RuleSpec) → List (String × Value)
  | none => []
  | some .neighbor => [("stopBy", .text "neighbor")]
  | some .toEnd => [("stopBy", .text "end")]
  | some (.rule r) => [("stopBy", r.encode)]

def RuleSpec.encodeClauses : List Clause → List (String × Value)
  | [] => []
  | c :: cs => c.encode :: RuleSpec.encodeClauses cs

def RuleSpec.encodeList : List RuleSpec → List Value
  | [] => []
  | r :: rs => r.encode :: RuleSpec.encodeList rs

/-- The entry that describes a clause. -/
def Clause.encode : Clause → String × Value
  | .pattern p => ("pattern", p.encode)
  | .kind name => ("kind", .text name)
  | .regex source => ("regex", .text source)
  | .nthChild spec => ("nthChild", Clause.encodeNthChild spec)
  | .range e => ("range", e.encode)
  | .all rules => ("all", .list (RuleSpec.encodeList rules))
  | .any rules => ("any", .list (RuleSpec.encodeList rules))
  | .not rule => ("not", rule.encode)
  | .util name => ("matches", .text name)
  | .relation r target => (r.name, target.encode)

def Clause.encodeNthChild : NthChildSpec RuleSpec → Value
  | .bare p => p.encode
  | .full p none reverse => .record [("position", p.encode), ("reverse", .bool reverse)]
  | .full p (some r) reverse =>
    .record [("position", p.encode), ("ofRule", r.encode), ("reverse", .bool reverse)]

end

namespace RuleDocument

/-- The entry of a document for a map, unless the map is empty. -/
def mapEntry {α : Type} (key : String) (encode : α → Value) (m : NameMap α) :
    List (String × Value) :=
  if m.isEmpty then [] else [(key, .record (m.map fun (name, a) => (name, encode a)))]

/-- The value that describes a document. -/
def encode (d : RuleDocument) : Value :=
  .record <| ("rule", d.rule.encode) :: mapEntry "constraints" RuleSpec.encode d.constraints ++
    mapEntry "utils" RuleSpec.encode d.utils ++
    mapEntry "transform" TransformSpec.encode d.transforms ++ textEntry "fix" d.fix

end RuleDocument

end StructuralSearch
