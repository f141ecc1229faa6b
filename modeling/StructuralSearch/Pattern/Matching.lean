import StructuralSearch.Env
import StructuralSearch.Pattern.Basic

/-!
# Matching a pattern against a node

A pattern is compared with a candidate from the roots downwards. A placeholder for one node takes
any named candidate; any other pattern node needs a candidate of its kind, which for a leaf has to
have its text and otherwise children that can be aligned in order. In an alignment a placeholder for
a run takes any number of consecutive candidates, fewest first, and nodes that the strictness skips
may go without a partner. Alignments are tried in order until one succeeds.

Main declarations:
1. `Matching.node`: a pattern node against a candidate.
2. `Matching.sequence`: the children of a pattern node against candidates.
3. `Pattern.matchNode`: a pattern against a node, given what is bound already.
-/

namespace StructuralSearch

namespace Shape

/-- The metavariable that a pattern node stands for. -/
def metavariable? (expando : Char) (goal : Shape) : Option (String × Arity) :=
  Placeholder.decode? expando goal.text

end Shape

namespace Matching

/-- The ways to cut a list in two, shortest first part first. -/
def splits {α : Type} : List α → List (List α × List α)
  | [] => [([], [])]
  | x :: l => ([], x :: l) :: (splits l).map fun (a, b) => (x :: a, b)

/-- The candidates that can be the next partner, each with those after it: all before it are
skipped. -/
def choices (skips : Node → Bool) : List Node → List (Node × List Node)
  | [] => []
  | c :: rest => (c, rest) :: if skips c then choices skips rest else []

/-- Whether a candidate may go without a partner. -/
def skipsNode (level : Strictness) (c : Node) : Bool := level.skipsCandidate c.kind c.isNamed

mutual

/-- Compares a pattern node with a candidate. -/
def node (expando : Char) (level : Strictness) (goal : Shape) (c : Node) (e : Env) : Option Env :=
  match goal with
  | .node kind _ text goals =>
    match Placeholder.decode? expando text with
    | some (name, .single) => if c.isNamed then e.bindSingle name c else none
    | some (name, .multiple) => e.bindMultiple name [c]
    | none =>
      if kind ≠ c.kind then none
      else
        match goals with
        | [] => if !level.comparesText || text == c.text then some e else none
        | g :: gs => sequence expando level (g :: gs) c.children e
termination_by structural goal

/-- Aligns the children of a pattern node with candidates. -/
def sequence (expando : Char) (level : Strictness) (goals : List Shape) (cs : List Node)
    (e : Env) : Option Env :=
  match goals with
  | [] => if cs.all (skipsNode level) then some e else none
  | g :: gs =>
    match g.metavariable? expando with
    | some (name, .multiple) =>
      (splits cs).findSome? fun (run, rest) =>
        (e.bindMultiple name run).bind (sequence expando level gs rest)
    | _ =>
      if level.skipsGoal g.kind g.named then sequence expando level gs cs e
      else
        (choices (skipsNode level) cs).findSome? fun (c, rest) =>
          (node expando level g c e).bind (sequence expando level gs rest)
termination_by structural goals

end

end Matching

namespace Pattern

/-- What the pattern binds when it is compared with a node on its own. -/
def bindings? (p : Pattern) (n : Node) : Option Env :=
  Matching.node p.language.expando p.strictness p.root.shape n .empty

/-- Matches a pattern against a node, given what is bound already. -/
def matchNode (p : Pattern) (n : Node) (e : Env) : Option Env := (p.bindings? n).bind e.merge

end Pattern

end StructuralSearch
