import StructuralSearch.Document.Json
import StructuralSearch.Document.Yaml
import StructuralSearch.Rule.Error
import StructuralSearch.Rule.Spec

/-!
# Reading rules

Every structure refuses keys that it does not know, so that a misspelt rule is an error and not a
rule that matches too much.

Main declarations:
1. `RuleSpec.decode`: the rule that a value describes.
2. `RuleDocument.decode`: the document that a value describes.
-/

namespace StructuralSearch

namespace PatternSpec

def decodeContextual (v : Value) : Decoded PatternSpec := do
  let fs ← Decode.fields .typed ["context", "selector", "strictness"] v
  let levels := Strictness.all.map fun s => (s.name, s)
  return .contextual (← Decode.required fs "context" Decode.text)
    (← Decode.optional fs "selector" Decode.text)
    (← Decode.optional fs "strictness" (Decode.keyword levels))

/-- A text or a record. -/
def decode (v : Value) : Decoded PatternSpec :=
  Decode.firstOf [fun v => source <$> Decode.text v, decodeContextual] v

end PatternSpec

namespace PositionSpec

/-- A number or a formula. -/
def decode (v : Value) : Decoded PositionSpec :=
  Decode.firstOf
    [fun v => index <$> Decode.natural .typed v, fun v => formula <$> Decode.text v] v

end PositionSpec

namespace Point

def decode (typing : Typing) (v : Value) : Decoded Point := do
  let fs ← Decode.fields typing ["line", "column"] v
  let coordinate (name : String) := Decode.required fs name (Decode.natural typing)
  return ⟨← coordinate "line", ← coordinate "column"⟩

end Point

namespace Extent

/-- The extent that a value describes. -/
def decode (typing : Typing) (v : Value) : Decoded Extent := do
  let fs ← Decode.fields typing ["start", "end"] v
  return ⟨← Decode.required fs "start" (Point.decode typing),
    ← Decode.required fs "end" (Point.decode typing)⟩

end Extent

namespace StopBy

/-- A keyword or a rule. -/
def decode (rule : Value → Decoded RuleSpec) (v : Value) : Decoded (StopBy RuleSpec) :=
  Decode.firstOf [Decode.keyword [("neighbor", neighbor), ("end", toEnd)],
    fun v => StopBy.rule <$> rule v] v

end StopBy

namespace NthChildSpec

def decodeFull (rule : Value → Decoded RuleSpec) (v : Value) : Decoded (NthChildSpec RuleSpec) := do
  let fs ← Decode.fields .typed ["position", "ofRule", "reverse"] v
  return .full (← Decode.required fs "position" PositionSpec.decode)
    (← Decode.optional fs "ofRule" rule) (← Decode.defaulted fs "reverse" Decode.bool false)

/-- A position, or a record with one. -/
def decode (rule : Value → Decoded RuleSpec) (v : Value) : Decoded (NthChildSpec RuleSpec) :=
  Decode.firstOf [fun v => bare <$> PositionSpec.decode v, decodeFull rule] v

end NthChildSpec

namespace RuleSpec

/-- The keys of a rule in the order of their declaration. -/
def keys : List String :=
  ["pattern", "kind", "regex", "nthChild", "range", "inside", "has", "precedes", "follows", "all",
    "any", "not", "matches", "stopBy", "field"]

/-- A clause for a key that may be missing. -/
def clauseFor {α : Type} (fs : List (String × Value)) (key : String) (read : Value → Decoded α)
    (clause : α → Clause) : Decoded (List Clause) := do
  return (← Decode.optional fs key read).toList.map clause

/-- The rule that a value describes, if it is nested less than `depth` times. -/
def decodeWithin : Nat → Typing → Value → Decoded RuleSpec
  | 0, _, _ => .error .tooDeep
  | depth + 1, typing, v => do
    let rule := decodeWithin depth typing
    let typedRule := decodeWithin depth .typed
    let fs ← Decode.fields typing keys v
    let related (r : Relation) := clauseFor fs r.name rule (.relation r)
    let clauses ← [
      clauseFor fs "pattern" PatternSpec.decode .pattern,
      clauseFor fs "kind" Decode.text .kind,
      clauseFor fs "regex" Decode.text .regex,
      clauseFor fs "nthChild" (NthChildSpec.decode typedRule) .nthChild,
      clauseFor fs "range" (Extent.decode typing) .range,
      clauseFor fs "all" (Decode.list rule) .all,
      clauseFor fs "any" (Decode.list rule) .any,
      clauseFor fs "not" rule .not,
      clauseFor fs "matches" Decode.text .util,
      related .inside, related .has, related .precedes, related .follows].mapM id
    return mk clauses.flatten (← Decode.optional fs "stopBy" (StopBy.decode typedRule))
      (← Decode.optional fs "field" Decode.text)

/-- The rule that a value describes. -/
def decode (typing : Typing) (v : Value) : Decoded RuleSpec := decodeWithin (v.depth + 1) typing v

end RuleSpec

namespace RuleDocument

/-- The document that a value describes. -/
def decode (typing : Typing) (v : Value) : Decoded RuleDocument := do
  let fs ← Decode.fields typing ["rule", "constraints", "utils", "transform", "fix"] v
  return {
    rule := ← Decode.required fs "rule" (RuleSpec.decode typing)
    constraints :=
      ← Decode.defaulted fs "constraints" (Decode.map (RuleSpec.decode typing)) .empty
    utils := ← Decode.defaulted fs "utils" (Decode.map (RuleSpec.decode typing)) .empty
    transforms :=
      ← Decode.defaulted fs "transform" (Decode.map (TransformSpec.decode typing)) .empty
    fix := ← Decode.optional fs "fix" Decode.text }

end RuleDocument

/-! ## Texts -/

/-- How a document is given. -/
inductive DocumentSource
  | value (v : Value)
  | json (t : Text)
  | yaml (t : Text)

namespace DocumentSource

/-- The name of the format in messages. -/
def format : DocumentSource → String
  | value _ | json _ => "json"
  | yaml _ => "yaml"

/-- The value of the document, and how its scalars are held. -/
def value? : DocumentSource → Option (Typing × Value)
  | value v => some (.typed, v)
  | json t => (Json.parse? t).map (.typed, ·)
  | yaml t => (Yaml.parse? t).map (.untyped, ·)

/-- What a document says. -/
def read {α : Type} (decode : Typing → Value → Decoded α) (s : DocumentSource) :
    Except RuleError α :=
  let decoded := match s.value? with
    | some (typing, v) => decode typing v
    | none => .error .malformed
  decoded.mapError fun fault => .decode s.format fault.message

end DocumentSource

/-- The rule of a document. -/
def RuleSpec.read (s : DocumentSource) : Except RuleError RuleSpec := s.read RuleSpec.decode

/-- The document of a text or value. -/
def RuleDocument.read (s : DocumentSource) : Except RuleError RuleDocument :=
  s.read RuleDocument.decode

end StructuralSearch
