import StructuralSearch.Rule.Basic
import StructuralSearch.Search

/-!
# Evaluating rules

A rule is evaluated at a node, given what is bound already, and says what is bound then. A rule that
refers to a utility rule is evaluated by evaluating that; since relations move in every direction,
such references may lead back to where they began. So the recursion is bounded by the number of
references that are under way at a time, and an evaluation that exceeds its bound is `unsettled`.

Main declarations:
1. `Verdict`: what an evaluation comes to.
2. `Rule.evaluateWithin`: evaluation with a bound on nested references.
3. `Rule.referenceBound`: a bound that no evaluation exceeds unless it comes back to a node with the
   same bindings in the same utility rule, and so would never end.
4. `Rule.evaluate`: evaluation within that bound.
-/

namespace StructuralSearch

/-- What an evaluation comes to. -/
inductive Verdict
  | accepted (env : Env)
  | rejected
  /-- Too many references were under way. -/
  | unsettled

namespace Verdict

/-- Acceptance without new bindings. -/
def ofBool (e : Env) (b : Bool) : Verdict := if b then accepted e else rejected

def ofOption : Option Env → Verdict
  | some e => accepted e
  | none => rejected

/-- What is bound, if the rule accepts. -/
def env? : Verdict → Option Env
  | accepted e => some e
  | _ => none

/-- Goes on after acceptance. -/
def andThen : Verdict → (Env → Verdict) → Verdict
  | accepted e, next => next e
  | rejected, _ => rejected
  | unsettled, _ => unsettled

/-- Goes on after rejection. -/
def orElse : Verdict → (Unit → Verdict) → Verdict
  | accepted e, _ => accepted e
  | rejected, next => next ()
  | unsettled, _ => unsettled

/-- Acceptance without new bindings of what was rejected. -/
def negate (e : Env) : Verdict → Verdict
  | accepted _ => rejected
  | rejected => accepted e
  | unsettled => unsettled

end Verdict

/-- Decides about a node, given what is bound. -/
abbrev Judgement := Node → Env → Verdict

namespace Rule

/-- The first verdict on the members of a list that is no rejection. -/
def firstVerdict {α : Type} (judge : α → Verdict) : List α → Verdict
  | [] => .rejected
  | a :: rest => (judge a).orElse fun _ => firstVerdict judge rest

/-- The nodes that a rule accepts on their own, unless one is unsettled. -/
def acceptedNodes (judge : Judgement) : List Node → Option (List Node)
  | [] => some []
  | n :: ns =>
    match judge n .empty with
    | .unsettled => none
    | .accepted _ => (acceptedNodes judge ns).map (n :: ·)
    | .rejected => acceptedNodes judge ns

/-- The position of a node among others, counted from one. -/
def positionOf? (n : Node) (siblings : List Node) : Option Nat :=
  (siblings.findIdx? (·.same n)).map (· + 1)

/-- Whether the position of a node among its counted siblings is selected. -/
def judgePosition (f : Formula) (reverse : Bool) (n : Node) (counted : List Node) : Bool :=
  (positionOf? n (if reverse then counted.reverse else counted)).any fun i => f.selects i

/-! ## Relations -/

/-- Whether a node occupies the field that is asked for, if one is. -/
def throughField (field : Option String) (n : Node) : Bool :=
  field.all fun f => n.fieldName == some f

/-- The ancestors of a node, each with the child on the way to the node. -/
def steps (n : Node) : List (Node × Node) := n.ancestors.zip (n :: n.ancestors)

/-- Related nodes in the order of the search, each with whether it is eligible as a match. -/
def candidates (r : Relation) (field : Option String) (n : Node) : List (Node × Bool) :=
  match r with
  | .inside => (steps n).map fun (ancestor, child) => (ancestor, throughField field child)
  | .has => []
  | .precedes => n.following.map (·, true)
  | .follows => n.preceding.map (·, true)

/-- The related node one step away, with whether it is eligible as a match. -/
def neighbor? (r : Relation) (field : Option String) (n : Node) : Option (Node × Bool) :=
  match r with
  | .inside => n.parent?.map (·, throughField field n)
  | .has => none
  | .precedes => n.next?.map (·, true)
  | .follows => n.prev?.map (·, true)

/-- The verdict on a candidate. -/
def judgeCandidate (target : Node → Verdict) (c : Node × Bool) : Verdict :=
  if c.2 then target c.1 else .rejected

/-- The first verdict on candidates that is no rejection, up to the first that does not satisfy the
stop rule. -/
def searchWhile (stop : Judgement) (target : Node → Verdict) : List (Node × Bool) → Verdict
  | [] => .rejected
  | c :: cs =>
    match stop c.1 .empty with
    | .unsettled => .unsettled
    | .rejected => .rejected
    | .accepted _ => (judgeCandidate target c).orElse fun _ => searchWhile stop target cs

/-- The first verdict that is no rejection on the nodes of a stack and on what is below them, from
the top of the stack. A node that satisfies the stop rule is tried, and then its children are put on
top in its place; a node that does not is taken off, with what is below it. -/
def searchStack (stop : Judgement) (target : Node → Verdict) : List Node → Verdict
  | [] => .rejected
  | n :: stack =>
    match stop n .empty with
    | .unsettled => .unsettled
    | .rejected => searchStack stop target stack
    | .accepted _ => (target n).orElse fun _ => searchStack stop target (n.children ++ stack)
termination_by stack => sizeOf (stack.map Node.shape)
decreasing_by
  · simp only [List.map_cons, List.cons.sizeOf_spec]
    omega
  · exact Node.shapes_children_smaller n stack

/-- The verdict of the relation `has`. -/
def judgeBelow (stop : StopBy Judgement) (field : Option String) (n : Node)
    (target : Node → Verdict) : Verdict :=
  let starts := n.children.filter (throughField field)
  match stop with
  | .neighbor => firstVerdict target starts
  | .toEnd => firstVerdict target (starts.flatMap Node.preorder)
  | .rule stop => searchStack stop target starts

/-- The verdict of a relation. -/
def judgeRelation (r : Relation) (stop : StopBy Judgement) (field : Option String) (n : Node)
    (target : Node → Verdict) : Verdict :=
  match r with
  | .has => judgeBelow stop field n target
  | r =>
    match stop with
    | .neighbor => ((neighbor? r field n).map (judgeCandidate target)).getD .rejected
    | .toEnd =>
      firstVerdict target (((candidates r field n).filter (·.2)).map (·.1))
    | .rule stop => searchWhile stop target (candidates r field n)

/-! ## Rules -/

mutual

/-- Evaluates a rule; `refer` evaluates the utility rules that it refers to. -/
def judge (refer : String → Judgement) (rule : Rule) (n : Node) (e : Env) : Verdict :=
  match rule with
  | pattern p => .ofOption (p.matchNode n e)
  | kind name => .ofBool e (n.kind == name)
  | regex r => .ofBool e (r.isMatch n.text)
  | range extent => .ofBool e (extent.covers n)
  | util name => refer name n e
  | nthChild f none reverse =>
    .ofBool e (n.parent?.any fun p => judgePosition f reverse n p.namedChildren)
  | nthChild f (some ofRule) reverse =>
    match n.parent? with
    | none => .rejected
    | some p =>
      match acceptedNodes (judge refer ofRule) p.namedChildren with
      | none => .unsettled
      | some counted => .ofBool e (judgePosition f reverse n counted)
  | relation r target .neighbor field =>
    judgeRelation r .neighbor field n fun m => judge refer target m e
  | relation r target .toEnd field =>
    judgeRelation r .toEnd field n fun m => judge refer target m e
  | relation r target (.rule stop) field =>
    judgeRelation r (.rule (judge refer stop)) field n fun m => judge refer target m e
  | all rules => judgeAll refer rules n e
  | any rules => judgeAny refer rules n e
  | not rule => (judge refer rule n e).negate e
termination_by structural rule

/-- Evaluates rules one after the other, each with what those before it have bound. -/
def judgeAll (refer : String → Judgement) (rules : List Rule) (n : Node) (e : Env) : Verdict :=
  match rules with
  | [] => .accepted e
  | r :: rs => (judge refer r n e).andThen fun e => judgeAll refer rs n e
termination_by structural rules

/-- Evaluates rules up to the first that accepts. -/
def judgeAny (refer : String → Judgement) (rules : List Rule) (n : Node) (e : Env) : Verdict :=
  match rules with
  | [] => .rejected
  | r :: rs => (judge refer r n e).orElse fun _ => judgeAny refer rs n e
termination_by structural rules

end

/-- Evaluates a rule while at most `depth` references are under way at a time. -/
def evaluateWithin (utils : NameMap Rule) : Nat → Rule → Judgement
  | 0, rule => judge (fun name _ _ => if utils.contains name then .unsettled else .rejected) rule
  | depth + 1, rule =>
    judge (fun name n e =>
      match utils.find? name with
      | some found => evaluateWithin utils depth found n e
      | none => .rejected) rule

/-- A number of references that are under way at a time which no evaluation at a tree of `size`
nodes exceeds unless it never ends. References that are under way differ in the utility rule, the
node or the bindings; along a chain of them bindings are only added, until the chain comes to a stop
rule or to the siblings that a position counts, where it starts again without bindings. -/
def referenceBound (utils : NameMap Rule) (rule : Rule) (size : Nat) : Nat :=
  let w := rule.weight + listWeight (utils.map (·.2))
  Nat.pow (w + 1) 3 * Nat.pow (size + 1) 2

/-- Evaluates a rule at a node. -/
def evaluate (utils : NameMap Rule) (rule : Rule) (n : Node) (e : Env) : Verdict :=
  evaluateWithin utils (referenceBound utils rule n.tree.size) rule n e

/-- The rule as a matcher; an evaluation that would never end is no match. -/
def matcher (utils : NameMap Rule) (rule : Rule) : Matcher := fun n e =>
  (evaluate utils rule n e).env?

end Rule

end StructuralSearch
