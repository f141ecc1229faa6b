import StructuralSearch.Pattern.Matching

/-!
# Searching a tree

A matcher decides whether a node matches, given what is bound already, and what is bound then. The
searches here take any matcher.

Main declarations:
1. `Node.find`: the first match in pre-order.
2. `Node.findAll`: the matches in pre-order; below a match the search is not continued.
3. `Node.inside`, `Node.has`, `Node.precedes`, `Node.follows`: whether a related node matches.
-/

namespace StructuralSearch

/-- Decides whether a node matches and what is bound then. -/
abbrev Matcher := Node → Env → Option Env

/-- A node that matched and what it bound. -/
structure Match where
  node : Node
  env : Env

namespace Match

/-- The node that a name captured. -/
def captured (m : Match) (name : String) : Except SyntaxError Node :=
  match m.env.node? name with
  | some n => .ok n
  | none => .error (.captureNotFound name)

end Match

namespace Tree

/-- The matches from place `id` up to place `stop`. -/
def findAllFrom (t : Tree) (m : Matcher) (id stop : Nat) : List Match :=
  if id < stop then
    match m ⟨t, id⟩ .empty with
    | some e => ⟨⟨t, id⟩, e⟩ :: findAllFrom t m (t.subtreeEnd id) stop
    | none => findAllFrom t m (id + 1) stop
  else []
termination_by stop - id
decreasing_by
  · simp only [subtreeEnd]; omega
  · omega

end Tree

namespace Node

/-- Whether the node itself matches. -/
def satisfies (n : Node) (m : Matcher) : Bool := (m n .empty).isSome

/-- The first match in pre-order, the node itself included. -/
def find (n : Node) (m : Matcher) : Option Match :=
  n.preorder.findSome? fun x => (m x .empty).map (⟨x, ·⟩)

/-- The matches in pre-order, the node itself included; none lies below another. -/
def findAll (n : Node) (m : Matcher) : List Match := n.tree.findAllFrom m n.id n.subtreeEnd

/-- Whether an ancestor matches. -/
def inside (n : Node) (m : Matcher) : Bool := n.ancestors.any (·.satisfies m)

/-- Whether a descendant matches. -/
def has (n : Node) (m : Matcher) : Bool := n.descendants.any (·.satisfies m)

/-- Whether one of the topmost nodes after this one matches. -/
def precedes (n : Node) (m : Matcher) : Bool := n.following.any (·.satisfies m)

/-- Whether one of the topmost nodes before this one matches. -/
def follows (n : Node) (m : Matcher) : Bool := n.preceding.any (·.satisfies m)

end Node

end StructuralSearch
