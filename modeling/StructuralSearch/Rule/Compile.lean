import StructuralSearch.Dependency
import StructuralSearch.Rule.Basic

/-!
# Compiling rules

Compiling a rule parses its patterns, reads its regular expressions and positions, and checks its
names against the grammar and the utility rules. A rule with several clauses becomes the rule that
asks for all of them.

Utility rules must not refer to themselves without moving to another node: the references that are
followed are those in a rule's own clauses, in combinations and in `ofRule`, which are all evaluated
at the same node or its siblings, and not those in the targets and stop rules of relations.

Main declarations:
1. `RuleSpec.references`: the references that are followed.
2. `RuleSpec.compile`: the compiled rule.
3. `compileUtils`: the compiled utility rules.
-/

namespace StructuralSearch

mutual

/-- The utility rules that a rule refers to without moving to another node, in the order in which
they are followed. -/
def RuleSpec.references : RuleSpec → List String
  | .mk cs _ _ =>
    let ranked := RuleSpec.clauseReferences cs
    (List.range 5).flatMap fun rank =>
      ranked.flatMap fun (r, names) => if r == rank then names else []

def RuleSpec.clauseReferences : List Clause → List (Nat × List String)
  | [] => []
  | c :: cs => c.references :: RuleSpec.clauseReferences cs

def RuleSpec.listReferences : List RuleSpec → List String
  | [] => []
  | r :: rs => r.references ++ RuleSpec.listReferences rs

/-- The references in a clause, with the rank of the clause in the order of following them. -/
def Clause.references : Clause → Nat × List String
  | .util name => (0, [name])
  | .all rules => (1, RuleSpec.listReferences rules)
  | .any rules => (2, RuleSpec.listReferences rules)
  | .not rule => (3, rule.references)
  | .nthChild (.full _ (some r) _) => (4, r.references)
  | .nthChild _ => (4, [])
  | .pattern _ | .kind _ | .regex _ | .range _ | .relation _ _ => (0, [])

end

namespace PatternSpec

def compile (language : Language) : PatternSpec → Except SyntaxError Pattern
  | source text => Pattern.compile language text.toList
  | contextual context selector strictness => do
    let p ← Pattern.compileIn language ⟨context.toList, selector⟩
    return p.withStrictness (strictness.getD .default)

end PatternSpec

namespace RuleSpec

/-- The rule that asks for all of several rules. -/
def join : List Rule → Except RuleError Rule
  | [] => .error .missingRuleKey
  | [r] => .ok r
  | rs => .ok (.all rs)

/-- The field that a relation goes through, if it may. -/
def checkField (language : Language) (r : Relation) :
    Option String → Except RuleError (Option String)
  | none => .ok none
  | some field =>
    if !r.takesField then .error (.fieldNotSupported r.name)
    else if language.grammar.hasField field then .ok (some field)
    else .error (.invalidField field language.name)

end RuleSpec

mutual

/-- Compiles a rule that is not the target of a relation; `utils` are the names of the utility
rules. -/
def RuleSpec.compile (language : Language) (utils : List String) : RuleSpec → Except RuleError Rule
  | .mk _ (some _) _ => .error (.misplacedRelationKey "stopBy")
  | .mk _ none (some _) => .error (.misplacedRelationKey "field")
  | .mk cs none none => do RuleSpec.join (← RuleSpec.compileClauses language utils cs)

def RuleSpec.compileClauses (language : Language) (utils : List String) :
    List Clause → Except RuleError (List Rule)
  | [] => .ok []
  | c :: cs => do
    let rule ← c.compile language utils
    return rule :: (← RuleSpec.compileClauses language utils cs)

def RuleSpec.compileList (language : Language) (utils : List String) :
    List RuleSpec → Except RuleError (List Rule)
  | [] => .ok []
  | r :: rs => do
    let rule ← r.compile language utils
    return rule :: (← RuleSpec.compileList language utils rs)

def RuleSpec.compileStop (language : Language) (utils : List String) :
    Option (StopBy RuleSpec) → Except RuleError (StopBy Rule)
  | none => .ok .neighbor
  | some .neighbor => .ok .neighbor
  | some .toEnd => .ok .toEnd
  | some (.rule r) => do return .rule (← r.compile language utils)

/-- Compiles one clause. -/
def Clause.compile (language : Language) (utils : List String) : Clause → Except RuleError Rule
  | .pattern p => (p.compile language).mapError .language |>.map .pattern
  | .kind name =>
    if language.grammar.hasKind name then .ok (.kind name)
    else .error (.unknownKind name language.name)
  | .regex source =>
    match Regex.compile source.toList with
    | .ok r => .ok (.regex r)
    | .error fault => .error (.invalidRegex source fault.message)
  | .nthChild (.bare p) => do return .nthChild (← Formula.parse p) none false
  | .nthChild (.full p none reverse) => do return .nthChild (← Formula.parse p) none reverse
  | .nthChild (.full p (some r) reverse) => do
    let ofRule ← r.compile language utils
    return .nthChild (← Formula.parse p) (some ofRule) reverse
  | .range e => do return .range (← e.check)
  | .all rules => do return .all (← RuleSpec.compileList language utils rules)
  | .any rules => do return .any (← RuleSpec.compileList language utils rules)
  | .not rule => do return .not (← rule.compile language utils)
  | .util name => if utils.contains name then .ok (.util name) else .error (.undefinedUtil name)
  | .relation r (.mk cs stop field) => do
    let field ← RuleSpec.checkField language r field
    let stop ← RuleSpec.compileStop language utils stop
    let target ← RuleSpec.join (← RuleSpec.compileClauses language utils cs)
    return .relation r target stop field

end

/-- Why utility rules cannot be used. -/
def utilFault : Dependency.Fault → RuleError
  | .cyclic name => .cyclicUtil name
  | .undefined name => .undefinedUtil name

/-- Refuses utility rules that refer to themselves without moving to another node. -/
def checkUtils (utils : NameMap RuleSpec) : Except RuleError Unit := do
  let _ ← (Dependency.order (utils.map fun (name, r) => (name, r.references))).mapError utilFault

/-- Compiles utility rules. -/
def compileUtils (language : Language) (utils : NameMap RuleSpec) :
    Except RuleError (NameMap Rule) := do
  checkUtils utils
  utils.mapM fun (name, r) => (name, ·) <$> r.compile language (NameMap.names utils)

end StructuralSearch
