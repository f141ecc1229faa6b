import StructuralSearch.Engine.Query
import StructuralSearch.Proofs.Compilation
import StructuralSearch.Proofs.Evaluation.Termination
import StructuralSearch.Proofs.Fix
import StructuralSearch.Proofs.Search

/-!
# Relations

A relation to the end of the tree tries its target along the whole walk. A boundary, the neighbor or
a stop rule, leaves nodes of the walk out. There is a second way to ask for related nodes: a query
that takes a rule and looks at the nodes itself. It goes the same walk.

* `RuleSpec.related`: the rule that asks for a related node and nothing else.
* `Node.relatedRule`: the query for related nodes.

Results:
1. `Rule.evaluate_toEnd`: a relation to the end tries its target along the walk.
2. `Rule.evaluate_toEnd_of_boundary`: boundaries only narrow a relation.
3. `Rule.walk_none`: the walks of the four relations.
4. `Node.relatedRule_eq_matchesRule`: the query for related nodes agrees with the relation.
-/

namespace StructuralSearch

/-! ## Boundaries -/

namespace Rule

variable {utils : NameMap Rule} {r : Relation} {target : Rule} {field : Option String} {n : Node}
  {e e' : Env}

/-- Several rules can be evaluated at the nodes of a tree with the same references: as many may be
under way as any of the rules needs. -/
theorem exists_refer (utils : NameMap Rule) (n : Node) (rules : List Rule) :
    ∃ refer : String → Judgement, ∀ rule ∈ rules, ∀ m e, n.OfTree m →
      evaluate utils rule m e = judge refer rule m e := by
  obtain ⟨depth, hdepth⟩ : ∃ depth, ∀ rule ∈ rules,
      referenceBound utils rule n.tree.size ≤ depth := by
    induction rules with
    | nil => exact ⟨0, by simp⟩
    | cons rule rules ih =>
      obtain ⟨depth, hdepth⟩ := ih
      refine ⟨max (referenceBound utils rule n.tree.size) depth, ?_⟩
      exact List.forall_mem_cons.mpr ⟨Nat.le_max_left _ _, fun r hr =>
        Nat.le_trans (hdepth r hr) (Nat.le_max_right _ _)⟩
  refine ⟨referWithin utils depth, fun rule hrule m e hm => ?_⟩
  rw [← evaluateWithin_eq_judge, evaluateWithin_eq_evaluate]
  rw [hm.1]
  exact hdepth rule hrule

/-- A relation to the end of the tree tries its target along the walk. -/
theorem evaluate_toEnd (utils : NameMap Rule) (r : Relation) (target : Rule)
    (field : Option String) (n : Node) (e : Env) :
    evaluate utils (.relation r target .toEnd field) n e =
      firstVerdict (fun m => evaluate utils target m e) (walk r field n) := by
  obtain ⟨refer, hrefer⟩ := exists_refer utils n [.relation r target .toEnd field, target]
  obtain ⟨hwhole, htarget, -⟩ := by simpa only [List.forall_mem_cons] using hrefer
  rw [hwhole n e (Node.ofTree_self n), judge, judgeRelation_toEnd]
  exact firstVerdict_congr fun m hm =>
    (htarget m e (ofTree_walk (Node.ofTree_self n) hm)).symm

/-- A relation that accepts returns what its target returns at some node of the walk. -/
theorem exists_of_evaluate_relation {stop : StopBy Rule}
    (h : evaluate utils (.relation r target stop field) n e = .accepted e') :
    ∃ m ∈ walk r field n, evaluate utils target m e = .accepted e' := by
  obtain ⟨refer, hrefer⟩ := exists_refer utils n [.relation r target stop field, target]
  obtain ⟨hwhole, htarget, -⟩ := by simpa only [List.forall_mem_cons] using hrefer
  rw [hwhole n e (Node.ofTree_self n)] at h
  obtain ⟨m, hm, hj⟩ : ∃ m ∈ walk r field n, judge refer target m e = .accepted e' := by
    cases stop with
    | neighbor | toEnd | rule _ =>
      rw [judge] at h
      exact exists_of_judgeRelation h
  exact ⟨m, hm, (htarget m e (ofTree_walk (Node.ofTree_self n) hm)).trans hj⟩

/-- A relation that accepts at some node of the walk accepts to the end of the tree, if that
settles. -/
theorem exists_of_evaluate_toEnd {m : Node} (hm : m ∈ walk r field n)
    (haccepted : evaluate utils target m e = .accepted e')
    (hsettled : evaluate utils (.relation r target .toEnd field) n e ≠ .unsettled) :
    ∃ found, evaluate utils (.relation r target .toEnd field) n e = .accepted found := by
  cases hend : evaluate utils (.relation r target .toEnd field) n e with
  | accepted found => exact ⟨found, rfl⟩
  | rejected =>
    rw [evaluate_toEnd, firstVerdict_eq_rejected_iff] at hend
    cases (hend m hm).symm.trans haccepted
  | unsettled => exact absurd hend hsettled

/-- A stop rule that is satisfied at every node of the tree stops nothing. -/
theorem evaluate_of_satisfied {stop : Rule} (h : n.tree.Preordered)
    (hstop : ∀ m, n.OfTree m → ∃ e, evaluate utils stop m .empty = .accepted e) :
    evaluate utils (.relation r target (.rule stop) field) n e =
      evaluate utils (.relation r target .toEnd field) n e := by
  obtain ⟨refer, hrefer⟩ := exists_refer utils n
    [.relation r target (.rule stop) field, .relation r target .toEnd field, stop]
  obtain ⟨hbounded, hunbounded, hstops, -⟩ := by simpa only [List.forall_mem_cons] using hrefer
  have hjudge : ∀ m, n.OfTree m → ∃ e, judge refer stop m .empty = .accepted e := by
    intro m hm
    rw [← hstops m .empty hm]
    exact hstop m hm
  rw [hbounded n e (Node.ofTree_self n), hunbounded n e (Node.ofTree_self n), judge, judge]
  exact judgeRelation_of_satisfied h hjudge

/-- Boundaries only narrow a relation. What accepts with any boundary accepts to the end of the
tree, if that evaluation ends. With a stop rule that is satisfied at every node of the tree, the
relation comes to the same as to the end, with the same bindings. -/
theorem evaluate_toEnd_of_boundary (utils : NameMap Rule) (r : Relation) (target : Rule)
    (field : Option String) (n : Node) (e : Env) :
    (∀ (stop : StopBy Rule) (e' : Env),
      evaluate utils (.relation r target stop field) n e = .accepted e' →
      evaluate utils (.relation r target .toEnd field) n e ≠ .unsettled →
      ∃ found, evaluate utils (.relation r target .toEnd field) n e = .accepted found) ∧
    (n.tree.Preordered → ∀ stop : Rule,
      (∀ m, n.OfTree m → ∃ e', evaluate utils stop m .empty = .accepted e') →
      evaluate utils (.relation r target (.rule stop) field) n e =
        evaluate utils (.relation r target .toEnd field) n e) := by
  refine ⟨fun stop e' haccepted hsettled => ?_, fun h stop hstop => evaluate_of_satisfied h hstop⟩
  obtain ⟨m, hm, hm'⟩ := exists_of_evaluate_relation haccepted
  exact exists_of_evaluate_toEnd hm hm' hsettled

/-- In `--a -b`, the root has a negation next to it, and no node is a number. -/
theorem evaluate_has_negation :
    negations.WellFormed ∧
    evaluate [] (.relation .has (.kind "negation") .neighbor none) negations.root .empty =
      .accepted .empty ∧
    (∃ found, evaluate [] (.relation .has (.kind "negation") .toEnd none) negations.root .empty =
      .accepted found) ∧
    evaluate [] (.relation .has (.kind "negation") (.rule (.not (.kind "number"))) none)
        negations.root .empty =
      evaluate [] (.relation .has (.kind "negation") .toEnd none) negations.root .empty := by
  have hwell : negations.WellFormed := by decide
  have hneighbor : evaluate [] (.relation .has (.kind "negation") .neighbor none) negations.root
      .empty = .accepted .empty := by
    rw [evaluate, evaluateWithin_eq_judge, judge]
    rfl
  have hkinds : ∀ id < negations.size, Node.kind ⟨negations, id⟩ ≠ "number" := by decide
  have hstop : ∀ m, negations.root.OfTree m →
      ∃ e, evaluate [] (.not (.kind "number")) m .empty = .accepted e := by
    intro m hm
    obtain ⟨tree, id⟩ := m
    obtain ⟨rfl, hid⟩ := hm.listed hwell.nonempty
    refine ⟨.empty, ?_⟩
    rw [evaluate, evaluateWithin_eq_judge, judge, judge, beq_false_of_ne (hkinds id hid)]
    rfl
  obtain ⟨hnarrows, hsame⟩ :=
    evaluate_toEnd_of_boundary [] .has (.kind "negation") none negations.root .empty
  exact ⟨hwell, hneighbor, hnarrows .neighbor .empty hneighbor (evaluate_nil_ne_unsettled _ _ _),
    hsame hwell.preordered _ hstop⟩

end Rule

/-! ## Walks without a field -/

namespace Rule

/-- The walks of the four relations. -/
theorem walk_none {n : Node} (h : n.tree.Preordered) (hn : n.id < n.tree.size) :
    walk .inside none n = n.ancestors ∧ walk .has none n = n.descendants ∧
      walk .precedes none n = n.following ∧ walk .follows none n = n.preceding := by
  have hall : ∀ l : List Node, ((l.map (·, true)).filter (·.2)).map (·.1) = l := by
    intro l
    rw [List.filter_eq_self.mpr (by simp), List.map_map]
    exact List.map_id l
  refine ⟨?_, ?_, hall n.following, hall n.preceding⟩
  · have hancestors : (steps n).map Prod.fst = n.ancestors :=
      List.map_fst_zip (Nat.le_succ n.ancestors.length)
    have hsteps : candidates .inside none n = n.ancestors.map (·, true) := by
      rw [← hancestors, List.map_map]
      rfl
    show ((candidates .inside none n).filter (·.2)).map (·.1) = n.ancestors
    rw [hsteps, hall]
  · rw [Node.descendants_eq h hn, walk, List.filter_eq_self.mpr (by simp [throughField])]

end Rule

/-! ## Queries -/

/-- The rule that asks for a node in the relation which the rule accepts, however far away it is,
and for nothing else. -/
def RuleSpec.related (r : Relation) (rule : RuleSpec) : RuleSpec :=
  .only (.relation r (.mk rule.clauses (some .toEnd) none))

namespace RuleSpec

variable {language : Language} {spec : RuleSpec} {rule : Rule}

theorem isEmpty_of_compile (h : spec.compile language [] = .ok rule) : spec.isEmpty = false := by
  obtain ⟨clauses, rules, rfl, hclauses, hjoin⟩ := compile_eq_ok_iff.mp h
  cases clauses with
  | nil =>
    cases hclauses
    cases hjoin
  | cons c cs => rfl

/-- A rule that compiles on its own also compiles as the target of a relation. -/
theorem compile_related (h : spec.compile language [] = .ok rule) (r : Relation) :
    (related r spec).compile language [] = .ok (.relation r rule .toEnd none) := by
  obtain ⟨clauses, rules, rfl, hclauses, hjoin⟩ := compile_eq_ok_iff.mp h
  have hrelation : Clause.compile language [] (.relation r (.mk clauses (some .toEnd) none)) =
      .ok (.relation r rule .toEnd none) := by
    rw [Clause.compile, checkField, compileStop, hclauses]
    show join rules >>= (fun target => .ok (Rule.relation r target .toEnd none)) = _
    rw [hjoin]
    rfl
  refine compile_eq_ok_iff.mpr ⟨_, [.relation r rule .toEnd none], rfl, ?_, rfl⟩
  rw [compileClauses, RuleSpec.clauses, hrelation]
  rfl

end RuleSpec

namespace CompiledRule

variable {language : Language} {spec : RuleSpec}

/-- A document that is nothing but a rule compiles if the rule does. -/
theorem exists_of_compile_ofRule {c : CompiledRule}
    (h : compile language (.ofRule spec) = .ok c) :
    ∃ rule, spec.compile language [] = .ok rule := by
  obtain ⟨_, -, h⟩ := Except.bind_eq_ok_iff.mp h
  obtain ⟨rule, hrule, -⟩ := Except.bind_eq_ok_iff.mp h
  exact ⟨rule, hrule⟩

/-- A document that is nothing but a rule matches what the rule matches. -/
theorem matchNode_ofRule (rule : Rule) :
    matchNode ⟨rule, [], [], [], none⟩ = rule.matcher [] := by
  funext n e
  simp only [matchNode, satisfiesConstraints, List.all_nil, if_true]
  exact Option.bind_fun_some (rule.matcher [] n e)

end CompiledRule

namespace Node

variable {n : Node}

/-- Whether a node in the relation matches, however far away it is. -/
def relatedRule (r : Relation) (n : Node) (d : RuleDocument) : Except Failure Bool :=
  match r with
  | .inside => n.insideRule d
  | .has => n.hasRule d
  | .precedes => n.precedesRule d
  | .follows => n.followsRule d

/-- The query for related nodes tries the nodes of the walk. -/
theorem relatedRule_eq_query (h : n.tree.Preordered) (hn : n.id < n.tree.size) (r : Relation)
    (d : RuleDocument) :
    n.relatedRule r d = n.query d fun m => (Rule.walk r none n).any (·.satisfies m) := by
  obtain ⟨hinside, hhas, hprecedes, hfollows⟩ := Rule.walk_none h hn
  cases r with
  | inside => rw [hinside]; rfl
  | has => rw [hhas]; rfl
  | precedes => rw [hprecedes]; rfl
  | follows => rw [hfollows]; rfl

/-- A query with a rule on its own asks with what the rule compiles to. -/
theorem query_ofRule {α : Type} {spec : RuleSpec} {rule : Rule}
    (h : spec.compile n.language [] = .ok rule) (ask : Matcher → α) :
    n.query (.ofRule spec) ask = .ok (ask (rule.matcher [])) := by
  have hempty : (RuleDocument.ofRule spec).rule.isEmpty = false := RuleSpec.isEmpty_of_compile h
  have hprepare : (RuleDocument.ofRule spec).prepare n.language =
      .ok ⟨rule, [], [], [], none⟩ := by
    rw [RuleDocument.prepare, hempty, compile_ofRule h]
    rfl
  rw [query, hprepare, ← CompiledRule.matchNode_ofRule]
  rfl

/-- A query for related nodes, with a rule on its own, agrees with the rule that asks for a node in
the relation to the end of the tree. -/
theorem relatedRule_eq_matchesRule {spec : RuleSpec} {c : CompiledRule} (h : n.tree.Preordered)
    (hn : n.id < n.tree.size) (hc : CompiledRule.compile n.language (.ofRule spec) = .ok c)
    (r : Relation) :
    ∃ found, n.relatedRule r (.ofRule spec) = .ok found ∧
      n.matchesRule (.ofRule (spec.related r)) = .ok found := by
  obtain ⟨rule, hrule⟩ := CompiledRule.exists_of_compile_ofRule hc
  have hsettled : ∀ m ∈ Rule.walk r none n, Rule.evaluate [] rule m .empty ≠ .unsettled :=
    fun m _ => Rule.evaluate_nil_ne_unsettled rule m .empty
  refine ⟨(Rule.walk r none n).any (·.satisfies (rule.matcher [])), ?_, ?_⟩
  · rw [relatedRule_eq_query h hn, query_ofRule hrule]
  · rw [matchesRule, query_ofRule (RuleSpec.compile_related hrule r), satisfies, Rule.matcher,
      Rule.evaluate_toEnd, Rule.isSome_env?_firstVerdict hsettled]
    rfl

/-- Below the root of `--a -b` there is a name. -/
theorem hasRule_negations :
    ∃ c, CompiledRule.compile negations.language (.ofRule (.only (.kind "name"))) = .ok c ∧
      negations.root.hasRule (.ofRule (.only (.kind "name"))) = .ok true ∧
      negations.root.matchesRule (.ofRule ((RuleSpec.only (.kind "name")).related .has)) =
        .ok true := by
  have hwell : negations.WellFormed := by decide
  have hrule : RuleSpec.compile negations.language [] (.only (.kind "name")) =
      .ok (.kind "name") := rfl
  have hc := compile_ofRule hrule
  obtain ⟨found, hrelated, hmatches⟩ :=
    relatedRule_eq_matchesRule (n := negations.root) hwell.preordered hwell.nonempty hc .has
  have hfound : (negations.root.relatedRule .has (.ofRule (.only (.kind "name")))).toOption =
      some true := by decide
  obtain rfl : found = true := by simpa [hrelated, Except.toOption] using hfound
  exact ⟨_, hc, hrelated, hmatches⟩

end Node

end StructuralSearch
