import StructuralSearch.Proofs.Evaluation.Plan
import StructuralSearch.Proofs.Evaluation.Searches

/-!
# The plan of a rule

Every rule has a plan at a node and bindings: the stop rules of its relations and the rules that its
positions count by are restarts, and utility rules are references; everything else is evaluated on
the way.

Results:
1. `judge_eq_run`: evaluating a rule is running its plan.
-/

namespace StructuralSearch

namespace Plan

/-- Goes on after rejection. -/
def orElse (p q : Plan) : Plan :=
  p.bind fun
    | some e => done (some e)
    | none => q

/-- The plan of the first member of a list that is accepted. -/
def first {α : Type} (plan : α → Plan) : List α → Plan
  | [] => done none
  | a :: rest => (plan a).orElse (first plan rest)

/-- Goes on with the nodes that a rule accepts on their own. -/
def counting (rule : Rule) (next : List Node → Plan) : List Node → Plan
  | [] => next []
  | n :: ns => ask (.restart rule n) fun
    | some _ => counting rule (fun counted => next (n :: counted)) ns
    | none => counting rule next ns

/-- The plan of a candidate. -/
def candidate (target : Node → Plan) (c : Node × Bool) : Plan :=
  if c.2 then target c.1 else done none

/-- The plan of candidates up to the first that does not satisfy a stop rule. -/
def searchWhile (stop : Rule) (target : Node → Plan) : List (Node × Bool) → Plan
  | [] => done none
  | c :: cs => ask (.restart stop c.1) fun
    | some _ => (candidate target c).orElse (searchWhile stop target cs)
    | none => done none

/-- The plan of a node and its descendants, but for those that do not satisfy a stop rule and those
below them. -/
def searchBelow (stop : Rule) (target : Node → Plan) (n : Node) : Plan :=
  ask (.restart stop n) fun
    | some _ => (target n).orElse (first (fun c => searchBelow stop target c.1) n.children.attach)
    | none => done none
termination_by n.tree.size - n.id
decreasing_by exact Node.child_smaller c.2

/-- The plan of the relation `has`. -/
def searchHas (stop : StopBy Rule) (field : Option String) (n : Node) (target : Node → Plan) :
    Plan :=
  let starts := n.children.filter (Rule.throughField field)
  match stop with
  | .neighbor => first target starts
  | .toEnd => first target (starts.flatMap Node.preorder)
  | .rule stop => first (searchBelow stop target) starts

/-- The plan of a relation. -/
def related (r : Relation) (stop : StopBy Rule) (field : Option String) (n : Node)
    (target : Node → Plan) : Plan :=
  match r with
  | .has => searchHas stop field n target
  | r =>
    match stop with
    | .neighbor => ((Rule.neighbor? r field n).map (candidate target)).getD (done none)
    | .toEnd => first target (((Rule.candidates r field n).filter (·.2)).map (·.1))
    | .rule stop => searchWhile stop target (Rule.candidates r field n)

end Plan

namespace Rule

/-- Acceptance without new bindings. -/
def planOfBool (e : Env) (b : Bool) : Plan := .done (if b then some e else none)

mutual

/-- The plan of a rule at a node. -/
def plan (rule : Rule) (n : Node) (e : Env) : Plan :=
  match rule with
  | pattern p => .done (p.matchNode n e)
  | kind name => planOfBool e (n.kind == name)
  | regex r => planOfBool e (r.isMatch n.text)
  | range extent => planOfBool e (extent.covers n)
  | util name => .ask (.reference name n e) .done
  | nthChild f none reverse =>
    planOfBool e (n.parent?.any fun p => judgePosition f reverse n p.namedChildren)
  | nthChild f (some ofRule) reverse =>
    match n.parent? with
    | none => .done none
    | some p =>
      Plan.counting ofRule (fun counted => planOfBool e (judgePosition f reverse n counted))
        p.namedChildren
  | relation r target stop field => Plan.related r stop field n fun m => plan target m e
  | all rules => planAll rules n e
  | any rules => planAny rules n e
  | not rule => (plan rule n e).bind fun
    | some _ => .done none
    | none => .done (some e)
termination_by structural rule

/-- The plan of rules one after the other. -/
def planAll (rules : List Rule) (n : Node) (e : Env) : Plan :=
  match rules with
  | [] => .done (some e)
  | r :: rs => (plan r n e).bind fun
    | some e => planAll rs n e
    | none => .done none
termination_by structural rules

/-- The plan of rules up to the first that accepts. -/
def planAny (rules : List Rule) (n : Node) (e : Env) : Plan :=
  match rules with
  | [] => .done none
  | r :: rs => (plan r n e).orElse (planAny rs n e)
termination_by structural rules

end

/-! ## Running the plan of a rule -/

/-- Restarts are evaluated like everything else. -/
def reply (refer : String → Judgement) : Question → Verdict
  | .reference name n e => refer name n e
  | .restart rule n => judge refer rule n .empty

end Rule

namespace Plan

open Rule

variable {answer : Question → Verdict}

theorem run_orElse (p q : Plan) :
    (p.orElse q).run answer = (p.run answer).orElse fun _ => q.run answer := by
  rw [orElse, run_bind]
  cases p.run answer <;> rfl

theorem run_first {α : Type} (plan : α → Plan) (l : List α) :
    (first plan l).run answer = firstVerdict (fun a => (plan a).run answer) l := by
  induction l with
  | nil => rfl
  | cons a l ih => rw [first, run_orElse, firstVerdict, ih]

theorem run_counting {rule : Rule} {stop : Judgement}
    (h : ∀ n, answer (.restart rule n) = stop n .empty) (next : List Node → Plan)
    (ns : List Node) :
    (counting rule next ns).run answer =
      match acceptedNodes stop ns with
      | none => .unsettled
      | some counted => (next counted).run answer := by
  induction ns generalizing next with
  | nil => rfl
  | cons n ns ih =>
    rw [counting, run, h, acceptedNodes]
    cases stop n .empty with
    | accepted e =>
      simp only [Verdict.follow, ih]
      cases acceptedNodes stop ns <;> rfl
    | rejected => simp only [Verdict.follow, ih]
    | unsettled => rfl

theorem run_candidate (target : Node → Plan) (c : Node × Bool) :
    (candidate target c).run answer = judgeCandidate (fun m => (target m).run answer) c := by
  rw [candidate, judgeCandidate]
  split <;> rfl

theorem run_searchWhile {rule : Rule} {stop : Judgement}
    (h : ∀ n, answer (.restart rule n) = stop n .empty) (target : Node → Plan)
    (cs : List (Node × Bool)) :
    (searchWhile rule target cs).run answer =
      Rule.searchWhile stop (fun m => (target m).run answer) cs := by
  induction cs with
  | nil => rfl
  | cons c cs ih =>
    rw [searchWhile, run, h, Rule.searchWhile]
    cases stop c.1 .empty with
    | accepted e => simp only [Verdict.follow, run_orElse, run_candidate, ih]
    | rejected => rfl
    | unsettled => rfl

theorem run_searchBelow {rule : Rule} {stop : Judgement}
    (h : ∀ n, answer (.restart rule n) = stop n .empty) (target : Node → Plan) (n : Node) :
    (searchBelow rule target n).run answer =
      Rule.searchBelow stop (fun m => (target m).run answer) n := by
  induction n using searchBelow.induct with
  | case1 n ih =>
    rw [searchBelow, run, h, Rule.searchBelow]
    cases stop n .empty with
    | accepted e =>
      simp only [Verdict.follow, run_orElse, run_first]
      exact congrArg _ (funext fun _ => congrArg (firstVerdict · _) (funext ih))
    | rejected => rfl
    | unsettled => rfl

/-- How a search goes, given what its stop rule says. -/
def stopJudgement (refer : String → Judgement) : StopBy Rule → StopBy Judgement
  | .neighbor => .neighbor
  | .toEnd => .toEnd
  | .rule stop => .rule (judge refer stop)

variable {refer : String → Judgement}

theorem reply_restart (rule : Rule) (n : Node) :
    reply refer (.restart rule n) = judge refer rule n .empty := rfl

theorem run_searchHas (stop : StopBy Rule) (field : Option String) (n : Node)
    (target : Node → Plan) :
    (searchHas stop field n target).run (reply refer) =
      judgeBelow (stopJudgement refer stop) field n fun m => (target m).run (reply refer) := by
  cases stop with
  | neighbor => exact run_first _ _
  | toEnd => exact run_first _ _
  | rule stop =>
    simp only [searchHas, judgeBelow_rule, stopJudgement, run_first]
    exact congrArg (firstVerdict · _)
      (funext (run_searchBelow (reply_restart stop) target))

theorem run_related (r : Relation) (stop : StopBy Rule) (field : Option String) (n : Node)
    (target : Node → Plan) :
    (related r stop field n target).run (reply refer) =
      judgeRelation r (stopJudgement refer stop) field n
        fun m => (target m).run (reply refer) := by
  have hneighbor : ∀ o : Option (Node × Bool),
      ((o.map (candidate target)).getD (done none)).run (reply refer) =
        (o.map (judgeCandidate fun m => (target m).run (reply refer))).getD .rejected := by
    intro o
    cases o with
    | none => rfl
    | some c => exact run_candidate target c
  cases r with
  | has => exact run_searchHas stop field n target
  | inside | precedes | follows =>
    cases stop with
    | neighbor => exact hneighbor _
    | toEnd => exact run_first _ _
    | rule stop => exact run_searchWhile (reply_restart stop) target _

end Plan

namespace Rule

variable {refer : String → Judgement}

theorem run_planOfBool (answer : Question → Verdict) (e : Env) (b : Bool) :
    (planOfBool e b).run answer = .ofBool e b := by
  cases b <;> rfl

mutual

/-- Evaluating a rule is running its plan. -/
theorem judge_eq_run (rule : Rule) (n : Node) (e : Env) :
    judge refer rule n e = (plan rule n e).run (reply refer) := by
  cases rule with
  | pattern p => rw [judge, plan, Plan.run]
  | kind name => rw [judge, plan, run_planOfBool]
  | regex r => rw [judge, plan, run_planOfBool]
  | range extent => rw [judge, plan, run_planOfBool]
  | util name =>
    rw [judge, plan, Plan.run, reply]
    cases refer name n e <;> rfl
  | nthChild f ofRule reverse =>
    cases ofRule with
    | none => rw [judge, plan, run_planOfBool]
    | some ofRule =>
      rw [judge, plan]
      cases n.parent? with
      | none => rfl
      | some p =>
        refine Eq.trans ?_ (Plan.run_counting (Plan.reply_restart ofRule) _ p.namedChildren).symm
        show (match acceptedNodes (judge refer ofRule) p.namedChildren with
          | none => Verdict.unsettled
          | some counted => .ofBool e (judgePosition f reverse n counted)) = _
        cases acceptedNodes (judge refer ofRule) p.namedChildren with
        | none => rfl
        | some counted => exact (run_planOfBool _ e _).symm
  | relation r target stop field =>
    -- every candidate is met with the bindings from before the search
    have htarget : (fun m => judge refer target m e) =
        fun m => (plan target m e).run (reply refer) :=
      funext fun m => judge_eq_run target m e
    rw [plan, Plan.run_related, ← htarget]
    cases stop <;> rw [judge] <;> rfl
  | all rules => rw [judge, plan, judgeAll_eq_run rules n e]
  | any rules => rw [judge, plan, judgeAny_eq_run rules n e]
  | not rule =>
    rw [judge, plan, Plan.run_bind, judge_eq_run rule n e]
    cases (plan rule n e).run (reply refer) <;> rfl
termination_by structural rule

theorem judgeAll_eq_run (rules : List Rule) (n : Node) (e : Env) :
    judgeAll refer rules n e = (planAll rules n e).run (reply refer) := by
  cases rules with
  | nil => rw [judgeAll, planAll, Plan.run, Verdict.ofOption]
  | cons r rs =>
    rw [judgeAll, planAll, Plan.run_bind, judge_eq_run r n e]
    cases (plan r n e).run (reply refer) with
    | accepted e => exact judgeAll_eq_run rs n e
    | rejected => rfl
    | unsettled => rfl
termination_by structural rules

theorem judgeAny_eq_run (rules : List Rule) (n : Node) (e : Env) :
    judgeAny refer rules n e = (planAny rules n e).run (reply refer) := by
  cases rules with
  | nil => rw [judgeAny, planAny, Plan.run, Verdict.ofOption]
  | cons r rs =>
    rw [judgeAny, planAny, Plan.run_orElse, judge_eq_run r n e, judgeAny_eq_run rs n e]
termination_by structural rules

end

end Rule

end StructuralSearch
