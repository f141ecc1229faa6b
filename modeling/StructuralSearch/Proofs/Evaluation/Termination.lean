import Mathlib.Data.List.Perm.Subperm
import Mathlib.Data.List.ProdSigma
import Mathlib.Tactic.Ring
import StructuralSearch.Proofs.Evaluation.Calls

/-!
# When evaluations end

An evaluation that does not settle within the bound goes through more references under way at a time
than there are ways to tell them apart: by the utility rule, the node, the restart under which the
reference stands and the number of patterns whose variables are all bound. Two that are told apart
by none of these are either the same reference or stand under the same restart twice; in both cases
the evaluation returns.

* `Trail`: references that are under way at a time.

Results:
1. `exists_trail`: an evaluation that does not settle has a trail of any length.
2. `Trail.pairwise`: on the trail of an evaluation that does not return, all labels differ.
3. `evaluate_eq_unsettled_iff`: an evaluation settles within the bound exactly if it does not
   return, and that is when it settles at all.
-/

namespace StructuralSearch

namespace Rule

open Plan

variable {utils : NameMap Rule}

/-! ## Trails -/

/-- A reference under way, with the restart under which it stands. -/
structure Position where
  restart : Option (Rule × Node)
  name : String
  node : Node
  env : Env

namespace Position

/-- The question that is asked there. -/
def question (x : Position) : Question := .reference x.name x.node x.env

/-- What references are told apart by. -/
def label (ps : List Pattern) (x : Position) : Option (Rule × Node) × Nat × String × Node :=
  (x.restart, Env.stage ps x.env, x.name, x.node)

end Position

/-- The references that are under way at a time in the evaluation of a rule, outermost first. -/
inductive Trail (utils : NameMap Rule) :
    Option (Rule × Node) → Rule → Node → Env → List Position → Prop
  | stop {o : Option (Rule × Node)} {rule : Rule} {n : Node} {e : Env} : Trail utils o rule n e []
  | reference {o : Option (Rule × Node)} {rule found : Rule} {n m : Node} {e e' : Env}
      {name : String} {l : List Position} {depth : Nat} :
      Asks (answers utils depth) (plan rule n e) (.reference name m e') →
      utils.find? name = some found → Trail utils o found m e' l →
      Trail utils o rule n e (⟨o, name, m, e'⟩ :: l)
  | restart {o : Option (Rule × Node)} {rule r : Rule} {n m : Node} {e : Env} {l : List Position}
      {depth : Nat} :
      Asks (answers utils depth) (plan rule n e) (.restart r m) →
      Trail utils (some (r, m)) r m .empty l → Trail utils o rule n e l

theorem exists_trail_of_references {depth : Nat}
    (href : ∀ name m e', answers utils depth (.reference name m e') = .unsettled →
      ∃ found, utils.find? name = some found ∧
        ∀ o, ∃ l, l.length = depth ∧ Trail utils o found m e' l)
    {rule : Rule} {n : Node} {e : Env} (h : evaluateWithin utils depth rule n e = .unsettled)
    (o : Option (Rule × Node)) : ∃ l, l.length = depth + 1 ∧ Trail utils o rule n e l := by
  induction rule using inside_induction generalizing n e o with
  | step rule ih =>
    rw [evaluateWithin_eq_run] at h
    obtain ⟨q, hasks, hq⟩ := run_eq_unsettled_iff.mp h
    cases q with
    | reference name m e' =>
      obtain ⟨found, hfound, htrail⟩ := href name m e' hq
      obtain ⟨l, hl, hl'⟩ := htrail o
      exact ⟨⟨o, name, m, e'⟩ :: l, by simp [hl], .reference hasks hfound hl'⟩
    | restart r m =>
      have hr : evaluateWithin utils depth r m .empty = .unsettled := by
        rw [evaluateWithin_eq_run]
        exact (answers_restart depth r m).symm.trans hq
      obtain ⟨l, hl, hl'⟩ := ih r (inside_of_asks hasks) hr (some (r, m))
      exact ⟨l, hl, .restart hasks hl'⟩

/-- An evaluation that does not settle within a bound has that many references under way, and one
more. -/
theorem exists_trail {depth : Nat} {rule : Rule} {n : Node} {e : Env}
    (h : evaluateWithin utils depth rule n e = .unsettled) (o : Option (Rule × Node)) :
    ∃ l, l.length = depth + 1 ∧ Trail utils o rule n e l := by
  induction depth generalizing rule n e o with
  | zero =>
    refine exists_trail_of_references (fun name m e' hq => ?_) h o
    rw [answers_zero] at hq
    cases hf : utils.find? name with
    | none => simp [NameMap.contains, hf] at hq
    | some found => exact ⟨found, rfl, fun _ => ⟨[], rfl, .stop⟩⟩
  | succ depth ih =>
    refine exists_trail_of_references (fun name m e' hq => ?_) h o
    rw [answers_reference, body] at hq
    cases hf : utils.find? name with
    | none => simp [hf, run, Verdict.ofOption] at hq
    | some found =>
      rw [hf] at hq
      exact ⟨found, rfl, ih ((evaluateWithin_eq_run depth found m e').trans hq)⟩

/-! ## What is known along a trail -/

section

variable {o : Option (Rule × Node)} {rule : Rule} {origin n : Node} {e : Env} {l : List Position}
  {ps : List Pattern} {rs : List Rule}

theorem Reaches.trans {p : Plan} {q q' : Question} (h : Reaches utils p q)
    (k : Reaches utils (body utils q) q') : Reaches utils p q' := by
  obtain ⟨first, hfirst, hpath⟩ := h
  obtain ⟨second, hsecond, hpath'⟩ := k
  exact ⟨first, hfirst, hpath.trans (.head hsecond hpath')⟩

theorem reaches_of_asks {depth : Nat} {p : Plan} {q : Question}
    (h : Asks (answers utils depth) p q) : Reaches utils p q :=
  ⟨q, ⟨depth, h⟩, .refl⟩

theorem calls_of_reaches {q q' : Question} (h : Reaches utils (body utils q) q') :
    Relation.TransGen (Calls utils) q q' := by
  obtain ⟨first, hfirst, hpath⟩ := h
  exact Relation.TransGen.head' hfirst hpath

theorem body_reference {name : String} {found : Rule} (h : utils.find? name = some found)
    (n : Node) (e : Env) : body utils (.reference name n e) = plan found n e := by
  rw [body, h]

/-- Every reference on a trail is reached, at a node of the tree. If it stands under the same
restart as the whole trail, bindings have grown up to it; else its restart is reached as well. -/
theorem Trail.known (h : Trail utils o rule n e l) (hn : Node.OfTree origin n)
    (hps : rule.patterns ⊆ ps) (hrs : rule.restarts ⊆ rs) (hutilps : utilPatterns utils ⊆ ps)
    (hutilrs : utilRestarts utils ⊆ rs) :
    ∀ x ∈ l, Reaches utils (plan rule n e) x.question ∧ Node.OfTree origin x.node ∧
      (utils.find? x.name).isSome = true ∧
      ((x.restart = o ∧ Env.Grows ps e x.env) ∨
        ∃ r m, x.restart = some (r, m) ∧ r ∈ rs ∧ Node.OfTree origin m ∧
          Reaches utils (plan rule n e) (.restart r m)) := by
  induction h with
  | stop => simp
  | @reference o rule found n m e e' name l depth hasks hfound htrail ih =>
    have hkeeps := plan_keeps rule n e hn hps hrs
    obtain ⟨hm, hgrows⟩ := hkeeps.asked_of_asks (answers_replies hutilps depth) hasks
    have hreach := reaches_of_asks hasks
    refine List.forall_mem_cons.mpr ⟨⟨hreach, hm, by simp [hfound], Or.inl ⟨rfl, hgrows⟩⟩, ?_⟩
    intro x hx
    obtain ⟨hx, hnode, hname, hplace⟩ := ih hm
      (List.Subset.trans (subset_of_find? hfound).1 hutilps)
      (List.Subset.trans (subset_of_find? hfound).2 hutilrs) x hx
    rw [← body_reference hfound] at hx
    refine ⟨hreach.trans hx, hnode, hname, ?_⟩
    rcases hplace with ⟨ho, hgrows'⟩ | ⟨r, k, hr, hmem, hk, hreach'⟩
    · exact Or.inl ⟨ho, hgrows.trans hgrows'⟩
    · rw [← body_reference hfound] at hreach'
      exact Or.inr ⟨r, k, hr, hmem, hk, hreach.trans hreach'⟩
  | @restart o rule r n m e l depth hasks htrail ih =>
    have hkeeps := plan_keeps rule n e hn hps hrs
    obtain ⟨hr, hm⟩ := hkeeps.asked_of_asks (answers_replies hutilps depth) hasks
    have hinside := inside_of_asks hasks
    have hreach := reaches_of_asks hasks
    intro x hx
    obtain ⟨hx, hnode, hname, hplace⟩ := ih hm (List.Subset.trans hinside.patterns hps)
      (List.Subset.trans hinside.restarts hrs) x hx
    refine ⟨hreach.trans hx, hnode, hname, ?_⟩
    rcases hplace with ⟨ho, -⟩ | ⟨r', k, hr', hmem, hk, hreach'⟩
    · exact Or.inr ⟨r, m, ho, hr, hm, hreach⟩
    · exact Or.inr ⟨r', k, hr', hmem, hk, hreach.trans hreach'⟩

/-- On the trail of an evaluation that does not return, all labels differ. -/
theorem Trail.pairwise (h : Trail utils o rule n e l) (hps : rule.patterns ⊆ ps)
    (hutilps : utilPatterns utils ⊆ ps)
    (horigin : ∀ r m, o = some (r, m) → ∀ q, Reaches utils (plan rule n e) q →
      Relation.TransGen (Calls utils) (.restart r m) q)
    (hreturns : ¬ Returns utils rule n e) :
    l.Pairwise fun x y => x.label ps ≠ y.label ps := by
  induction h with
  | stop => exact .nil
  | @reference o rule found n m e e' name l depth hasks hfound htrail ih =>
    have hreach := reaches_of_asks hasks
    have hbody := body_reference hfound m e'
    have hfoundps := List.Subset.trans (subset_of_find? hfound).1 hutilps
    refine .cons (fun y hy hlabel => hreturns ⟨name, m, e', hreach, ?_⟩) (ih hfoundps ?_ ?_)
    · -- the label occurs again, at the same reference or under the same restart
      obtain ⟨hy, -, -, hplace⟩ := htrail.known (Node.ofTree_self m) hfoundps
        (List.subset_append_left found.restarts (utilRestarts utils)) hutilps
        (List.subset_append_right _ _) y hy
      simp only [Position.label, Prod.mk.injEq] at hlabel
      obtain ⟨hrestart, hstage, hname, hnode⟩ := hlabel
      rw [← hbody] at hy
      rcases hplace with ⟨-, hgrows⟩ | ⟨r, k, hr, -, -, hreach'⟩
      · have henv : y.env = e' := Env.eq_of_grows hgrows hstage
        have hquestion : y.question = .reference name m e' := by
          rw [Position.question, henv, ← hname, ← hnode]
        have hcalls := calls_of_reaches hy
        rwa [hquestion] at hcalls
      · rw [← hbody] at hreach'
        exact (calls_of_reaches hreach').trans (horigin r k (hrestart.trans hr) _ hreach)
    · intro r k hr q hq
      rw [← hbody] at hq
      exact horigin r k hr q (hreach.trans hq)
    · rintro ⟨name', m', e'', hq, hcycle⟩
      rw [← hbody] at hq
      exact hreturns ⟨name', m', e'', hreach.trans hq, hcycle⟩
  | @restart o rule r n m e l depth hasks htrail ih =>
    have hreach := reaches_of_asks hasks
    refine ih (List.Subset.trans (inside_of_asks hasks).patterns hps) ?_ ?_
    · intro r' m' hr q hq
      cases hr
      exact calls_of_reaches hq
    · rintro ⟨name', m', e'', hq, hcycle⟩
      exact hreturns ⟨name', m', e'', hreach.trans hq, hcycle⟩

end

/-! ## Counting labels -/

/-- The nodes of a tree, and one node that need not be listed. -/
def nodesOf (origin : Node) : List Node :=
  origin :: (List.range origin.tree.size).map fun id => ⟨origin.tree, id⟩

/-- The patterns that the evaluation of a rule may meet. -/
def patternsMet (utils : NameMap Rule) (rule : Rule) : List Pattern :=
  rule.patterns ++ utilPatterns utils

/-- The restarts that the evaluation of a rule may meet. -/
def restartsMet (utils : NameMap Rule) (rule : Rule) : List Rule :=
  rule.restarts ++ utilRestarts utils

/-- The labels that references may have in the evaluation of a rule. -/
def labels (utils : NameMap Rule) (rule : Rule) (origin : Node) :
    List (Option (Rule × Node) × Nat × String × Node) :=
  (none :: (restartsMet utils rule ×ˢ nodesOf origin).map some) ×ˢ
    List.range ((patternsMet utils rule).length + 1) ×ˢ NameMap.names utils ×ˢ nodesOf origin

theorem mem_nodesOf {origin m : Node} (h : Node.OfTree origin m) : m ∈ nodesOf origin := by
  obtain ⟨tree, id⟩ := m
  obtain ⟨htree, hid⟩ := h
  obtain rfl : tree = origin.tree := htree
  rcases hid with hid | hid
  · exact List.mem_cons_of_mem _ (List.mem_map.mpr ⟨id, List.mem_range.mpr hid, rfl⟩)
  · obtain rfl : id = origin.id := hid
    exact List.mem_cons_self

theorem length_nodesOf (origin : Node) : (nodesOf origin).length = origin.tree.size + 1 := by
  simp [nodesOf]

theorem length_labels (rule : Rule) (origin : Node) :
    (labels utils rule origin).length =
      ((restartsMet utils rule).length * (origin.tree.size + 1) + 1) *
        (((patternsMet utils rule).length + 1) * (utils.length * (origin.tree.size + 1))) := by
  simp only [labels, List.length_product, List.length_cons, List.length_map, List.length_range,
    length_nodesOf, NameMap.names]

/-- There are no more labels than the bound allows references under way. -/
theorem length_labels_le (rule : Rule) (origin : Node) :
    (labels utils rule origin).length ≤ referenceBound utils rule origin.tree.size := by
  have hrule := length_le_weight rule
  have hutils := length_le_listWeight (utils.map (·.2))
  rw [List.length_map] at hutils
  rw [length_labels, referenceBound, Nat.pow_eq, Nat.pow_eq]
  have hps : (patternsMet utils rule).length + 1 ≤
      rule.weight + listWeight (utils.map (·.2)) + 1 := by
    simp only [patternsMet, utilPatterns, List.length_append]
    omega
  have hrs : (restartsMet utils rule).length + 1 ≤
      rule.weight + listWeight (utils.map (·.2)) + 1 := by
    simp only [restartsMet, utilRestarts, List.length_append]
    omega
  have hnames : utils.length ≤ rule.weight + listWeight (utils.map (·.2)) + 1 := by omega
  generalize rule.weight + listWeight (utils.map (·.2)) + 1 = w at *
  generalize (restartsMet utils rule).length = r at *
  generalize (patternsMet utils rule).length = p at *
  generalize origin.tree.size = s
  have hrestarts : r * (s + 1) + 1 ≤ w * (s + 1) := by
    calc r * (s + 1) + 1 ≤ (r + 1) * (s + 1) := by rw [Nat.add_mul]; omega
      _ ≤ w * (s + 1) := Nat.mul_le_mul_right _ hrs
  calc (r * (s + 1) + 1) * ((p + 1) * (utils.length * (s + 1)))
      ≤ (w * (s + 1)) * (w * (w * (s + 1))) :=
        Nat.mul_le_mul hrestarts (Nat.mul_le_mul hps (Nat.mul_le_mul_right _ hnames))
    _ = w ^ 3 * (s + 1) ^ 2 := by ring

theorem Trail.label_mem {rule : Rule} {n : Node} {e : Env} {l : List Position}
    (h : Trail utils none rule n e l) :
    ∀ x ∈ l, x.label (patternsMet utils rule) ∈ labels utils rule n := by
  intro x hx
  obtain ⟨-, hnode, hname, hplace⟩ := h.known (Node.ofTree_self n)
    (List.subset_append_left rule.patterns (utilPatterns utils))
    (List.subset_append_left rule.restarts (utilRestarts utils))
    (List.subset_append_right _ _) (List.subset_append_right _ _) x hx
  obtain ⟨found, hfound⟩ := Option.isSome_iff_exists.mp hname
  have hmem : x.name ∈ NameMap.names utils :=
    List.mem_map.mpr ⟨_, NameMap.mem_of_find? hfound, rfl⟩
  have hrestart : x.restart ∈ none :: (restartsMet utils rule ×ˢ nodesOf n).map some := by
    rcases hplace with ⟨ho, -⟩ | ⟨r, m, hr, hmemr, hm, -⟩
    · rw [ho]
      exact List.mem_cons_self
    · rw [hr]
      exact List.mem_cons_of_mem _ (List.mem_map.mpr
        ⟨_, List.mem_product.mpr ⟨hmemr, mem_nodesOf hm⟩, rfl⟩)
  have hstage : Env.stage (patternsMet utils rule) x.env ∈
      List.range ((patternsMet utils rule).length + 1) :=
    List.mem_range.mpr (Nat.lt_succ_of_le (Env.stage_le _ _))
  simp only [labels, Position.label, List.mem_product]
  exact ⟨hrestart, hstage, hmem, mem_nodesOf hnode⟩

/-! ## The bound -/

/-- An evaluation that does not return settles within the bound. -/
theorem returns_of_evaluate_eq_unsettled {rule : Rule} {n : Node} {e : Env}
    (h : evaluate utils rule n e = .unsettled) : Returns utils rule n e := by
  by_contra hreturns
  obtain ⟨l, hlength, htrail⟩ := exists_trail h none
  have hpairwise : l.Pairwise fun x y =>
      x.label (patternsMet utils rule) ≠ y.label (patternsMet utils rule) :=
    htrail.pairwise (List.subset_append_left _ _) (List.subset_append_right _ _)
      (fun r m ho => by cases ho) hreturns
  have hnodup : (l.map (Position.label (patternsMet utils rule))).Nodup :=
    List.pairwise_map.mpr hpairwise
  have hsubset : l.map (Position.label (patternsMet utils rule)) ⊆ labels utils rule n := by
    intro label hlabel
    obtain ⟨x, hx, rfl⟩ := List.mem_map.mp hlabel
    exact htrail.label_mem x hx
  -- the trail is longer than there are labels
  have hcount := (List.subperm_of_subset hnodup hsubset).length_le
  have hbound := @length_labels_le utils rule n
  rw [List.length_map, hlength] at hcount
  omega

/-- An evaluation settles within the bound exactly if it does not return, and that is when it
settles at all. -/
theorem evaluate_eq_unsettled_iff {rule : Rule} {n : Node} {e : Env} :
    (evaluate utils rule n e = .unsettled ↔ Returns utils rule n e) ∧
      (evaluate utils rule n e = .unsettled ↔
        ∀ depth, evaluateWithin utils depth rule n e = .unsettled) := by
  have hnever : Returns utils rule n e →
      ∀ depth, evaluateWithin utils depth rule n e = .unsettled :=
    evaluateWithin_eq_unsettled_of_returns
  have hreturns := @returns_of_evaluate_eq_unsettled utils rule n e
  exact ⟨⟨hreturns, fun h => hnever h _⟩, fun h => hnever (hreturns h), fun h => h _⟩

/-- With more references than the bound allows, an evaluation comes to the same. -/
theorem evaluateWithin_eq_evaluate {rule : Rule} {n : Node} {e : Env} {depth : Nat}
    (h : referenceBound utils rule n.tree.size ≤ depth) :
    evaluateWithin utils depth rule n e = evaluate utils rule n e := by
  by_cases hsettled : evaluate utils rule n e = .unsettled
  · rw [hsettled, evaluate_eq_unsettled_iff.2.mp hsettled]
  · exact evaluateWithin_of_le h hsettled

/-- Without utility rules, every evaluation settles. -/
theorem evaluate_nil_ne_unsettled (rule : Rule) (n : Node) (e : Env) :
    evaluate [] rule n e ≠ .unsettled := by
  intro h
  obtain ⟨name, m, e', -, hcycle⟩ := evaluate_eq_unsettled_iff.1.mp h
  obtain ⟨q, hcalls, -⟩ := exists_calls_of_cycle hcycle
  cases answers_zero_of_calls hcalls

end Rule

end StructuralSearch
