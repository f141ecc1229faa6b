import StructuralSearch.Rule.Compile
import StructuralSearch.Rule.Evaluation
import StructuralSearch.Template
import StructuralSearch.Transform.Basic

/-!
# Compiled documents

A compiled document matches a node if its rule does and every constraint holds: the name of a
constraint has to be bound to a single node that satisfies it. Then the transforms are applied. The
fix of a document replaces what matched.

Main declarations:
1. `CompiledRule.compile`: compiles a document for a language.
2. `CompiledRule.matchNode`: the matches of the document.
3. `CompiledRule.fixEdit`: the edit that the fix makes of a match.
-/

namespace StructuralSearch

structure CompiledRule where
  rule : Rule
  constraints : NameMap Rule
  utils : NameMap Rule
  transforms : Transforms
  fix : Option Template

namespace CompiledRule

/-- Refuses a template that refers to a name which nothing can bind. -/
def checkFix (rule : Rule) (utils : NameMap Rule) (transforms : Transforms) (template : Template) :
    Except RuleError Unit :=
  let bindable := rule.mentioned utils ++ transforms.names
  match template.referencedNames.find? fun name => !bindable.contains name with
  | some name =>
    .error (.invalidFix s!"metavariable '{name}' is never bound by the rule or a transform")
  | none => .ok ()

/-- Compiles a document for a language. -/
def compile (language : Language) (d : RuleDocument) : Except RuleError CompiledRule := do
  let names := NameMap.names d.utils
  let utils ← compileUtils language d.utils
  let rule ← d.rule.compile language names
  let constraints ← d.constraints.mapM fun (name, r) => (name, ·) <$> r.compile language names
  let transforms ← Transforms.compile language d.transforms
  let fix := d.fix.map fun text => Template.parse language text.toList
  match fix with
  | some template => checkFix rule utils transforms template
  | none => pure ()
  return ⟨rule, constraints, utils, transforms, fix⟩

/-- Whether every constraint holds. -/
def satisfiesConstraints (c : CompiledRule) (e : Env) : Bool :=
  c.constraints.all fun (name, constraint) =>
    (e.node? name).any fun n => n.satisfies (constraint.matcher c.utils)

/-- Matches the document against a node, given what is bound already. -/
def matchNode (c : CompiledRule) (n : Node) (e : Env) : Option Env := do
  let matched ← c.rule.matcher c.utils n e
  if c.satisfiesConstraints matched then some (c.transforms.apply matched) else none

/-- The edit that replaces a match, if the document has a fix. -/
def fixEdit (c : CompiledRule) (m : Match) : Option Edit :=
  c.fix.map fun template => m.node.replace (template.render m.env)

end CompiledRule

end StructuralSearch
