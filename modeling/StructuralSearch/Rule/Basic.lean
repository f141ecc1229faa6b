import StructuralSearch.Pattern.Matching
import StructuralSearch.Regex.Basic
import StructuralSearch.Rule.Formula

/-!
# Rules

A rule that is ready to be evaluated, and what it says about names: the metavariables of its
patterns and the utility rules that it refers to.

Main declarations:
1. `Rule`: the rules.
2. `Rule.mentioned`: the names of metavariables in a rule and in the rules that it refers to.
-/

namespace StructuralSearch

inductive Rule
  | pattern (p : Pattern)
  | kind (name : String)
  | regex (r : Regex)
  /-- The position among the named siblings that satisfy `ofRule`. -/
  | nthChild (f : Formula) (ofRule : Option Rule) (reverse : Bool)
  | range (e : Extent)
  | relation (r : Relation) (target : Rule) (stop : StopBy Rule) (field : Option String)
  | all (rules : List Rule)
  | any (rules : List Rule)
  | not (rule : Rule)
  /-- A utility rule by its name. -/
  | util (name : String)

namespace Rule

mutual

/-- The names of the metavariables in the patterns of a rule, stop rules excepted. -/
def metavariables : Rule → List String
  | pattern p => p.metavariables.map Metavariable.name
  | kind _ | regex _ | range _ | util _ => []
  | nthChild _ none _ => []
  | nthChild _ (some r) _ => r.metavariables
  | relation _ target _ _ => target.metavariables
  | all rules | any rules => listMetavariables rules
  | not r => r.metavariables

def listMetavariables : List Rule → List String
  | [] => []
  | r :: rs => r.metavariables ++ listMetavariables rs

end

mutual

/-- The utility rules that a rule refers to, stop rules excepted. -/
def references : Rule → List String
  | util name => [name]
  | pattern _ | kind _ | regex _ | range _ => []
  | nthChild _ none _ => []
  | nthChild _ (some r) _ => r.references
  | relation _ target _ _ => target.references
  | all rules | any rules => listReferences rules
  | not r => r.references

def listReferences : List Rule → List String
  | [] => []
  | r :: rs => r.references ++ listReferences rs

end

/-- The rules among `left` that names lead to, directly or through others. -/
def reached (left : NameMap Rule) : List String → List Rule
  | [] => []
  | name :: rest =>
    match _h : left.find? name with
    | none => reached left rest
    | some r => r :: reached (left.erase name) (r.references ++ rest)
termination_by names => (left.length, names.length)
decreasing_by
  · exact Prod.Lex.right _ (by simp)
  · exact Prod.Lex.left _ _ (NameMap.length_erase_lt _h)

/-- The names of the metavariables in a rule and in the utility rules that it refers to. -/
def mentioned (utils : NameMap Rule) (r : Rule) : List String :=
  r.metavariables ++ (reached utils r.references).flatMap metavariables

mutual

/-- The size of a rule: its parts and the metavariables in its patterns. -/
def weight : Rule → Nat
  | pattern p => 1 + 2 * p.metavariables.length
  | kind _ | regex _ | range _ | util _ => 1
  | nthChild _ none _ => 1
  | nthChild _ (some r) _ => 1 + r.weight
  | relation _ target .neighbor _ => 1 + target.weight
  | relation _ target .toEnd _ => 1 + target.weight
  | relation _ target (.rule stop) _ => 1 + target.weight + stop.weight
  | all rules | any rules => 1 + listWeight rules
  | not r => 1 + r.weight

def listWeight : List Rule → Nat
  | [] => 0
  | r :: rs => r.weight + listWeight rs

end

end Rule

end StructuralSearch
