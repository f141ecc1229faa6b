import StructuralSearch.Failure
import StructuralSearch.Rule.Compiled

/-!
# Queries

What a document finds at a node, and what a source becomes when its matches are replaced. A rule
that asks for nothing is an error of the configuration.

Main declarations:
1. `RuleDocument.prepare`: compiles a document for a query.
2. `Node.findRule`, `Node.findAllRule`: matches at or below a node.
3. `Node.matchesRule`, `Node.insideRule`, `Node.hasRule`, `Node.precedesRule`, `Node.followsRule`:
   whether related nodes match, however far away they are.
4. `Tree.rewrite`: a source with its matches replaced.
-/

namespace StructuralSearch

namespace RuleDocument

/-- Compiles a document for a query. -/
def prepare (language : Language) (d : RuleDocument) : Except Failure CompiledRule :=
  if d.rule.isEmpty then .error (.configuration "rule must contain at least one rule key")
  else (CompiledRule.compile language d).mapError .ofRuleError

end RuleDocument

namespace Node

/-- Asks about a node with a compiled document. -/
def query {α : Type} (n : Node) (d : RuleDocument) (ask : Matcher → α) : Except Failure α := do
  return ask (← d.prepare n.language).matchNode

/-- The first match in pre-order, the node itself included. -/
def findRule (n : Node) (d : RuleDocument) : Except Failure (Option Match) := n.query d n.find

/-- The matches in pre-order, the node itself included; none lies below another. -/
def findAllRule (n : Node) (d : RuleDocument) : Except Failure (List Match) := n.query d n.findAll

/-- Whether the node matches. -/
def matchesRule (n : Node) (d : RuleDocument) : Except Failure Bool := n.query d n.satisfies

/-- Whether an ancestor matches. -/
def insideRule (n : Node) (d : RuleDocument) : Except Failure Bool := n.query d n.inside

/-- Whether a descendant matches. -/
def hasRule (n : Node) (d : RuleDocument) : Except Failure Bool := n.query d n.has

/-- Whether a node after this one matches. -/
def precedesRule (n : Node) (d : RuleDocument) : Except Failure Bool := n.query d n.precedes

/-- Whether a node before this one matches. -/
def followsRule (n : Node) (d : RuleDocument) : Except Failure Bool := n.query d n.follows

end Node

namespace Tree

/-- The source with every match of a document replaced by its fix. -/
def rewrite (t : Tree) (d : RuleDocument) : Except Failure Rewritten := do
  if d.fix.isNone then throw (.configuration "rewrite requires a fix")
  let c ← (CompiledRule.compile t.language d).mapError Failure.ofRuleError
  (StructuralSearch.rewrite t.root c.matchNode c.fixEdit).mapError .ofSyntaxError

end Tree

end StructuralSearch
