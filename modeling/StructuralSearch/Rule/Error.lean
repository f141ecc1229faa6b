import StructuralSearch.Error

/-!
# Failures of rules

What can go wrong while a rule document is read and compiled. Each failure is one constructor;
`RuleError.message` words it.
-/

namespace StructuralSearch

inductive RuleError
  /-- The document is not a rule document of the format. -/
  | decode (format reason : String)
  /-- A rule asks for nothing. -/
  | missingRuleKey
  /-- A key of relations stands in a rule that is no target of a relation. -/
  | misplacedRelationKey (key : String)
  | invalidRegex (source reason : String)
  | invalidNthChild (reason : String)
  | invalidRange (reason : String)
  /-- The grammar has no such field. -/
  | invalidField (field language : String)
  /-- The relation does not go through a field. -/
  | fieldNotSupported (relation : String)
  /-- No utility rule has this name. -/
  | undefinedUtil (name : String)
  /-- A utility rule refers to itself without moving to another node. -/
  | cyclicUtil (name : String)
  | invalidTransform (name reason : String)
  /-- A transform depends on its own result. -/
  | cyclicTransform (name : String)
  | invalidFix (reason : String)
  /-- The grammar has no such kind of node. -/
  | unknownKind (kind language : String)
  /-- A failure of the language layer. -/
  | language (error : SyntaxError)
deriving DecidableEq, Repr

namespace RuleError

def message : RuleError → String
  | decode format reason => s!"failed to decode {format} rule: {reason}"
  | missingRuleKey =>
    "rule must contain at least one of pattern, kind, regex, nthChild, range, inside, has, " ++
      "precedes, follows, all, any, not or matches"
  | misplacedRelationKey key => s!"'{key}' is only valid inside a relational rule"
  | invalidRegex source reason => s!"invalid regex '{source}': {reason}"
  | invalidNthChild reason => s!"invalid nthChild: {reason}"
  | invalidRange reason => s!"invalid range: {reason}"
  | invalidField field name => s!"field '{field}' does not exist in {name}"
  | fieldNotSupported relation =>
    s!"field is only supported by inside and has, not {relation}"
  | undefinedUtil name => s!"utility rule '{name}' is not defined"
  | cyclicUtil name => s!"utility rule '{name}' is cyclic"
  | invalidTransform name reason => s!"invalid transform '{name}': {reason}"
  | cyclicTransform name => s!"transform '{name}' is cyclic"
  | invalidFix reason => s!"invalid fix: {reason}"
  | unknownKind kind name => s!"kind '{kind}' does not exist in {name}"
  | language error => error.message

/-- Whether the fault lies in the document, whatever the grammar. -/
def isConfiguration : RuleError → Bool
  | unknownKind _ _ => false
  | language _ => false
  | _ => true

instance : Coe SyntaxError RuleError := ⟨language⟩

end RuleError

end StructuralSearch
