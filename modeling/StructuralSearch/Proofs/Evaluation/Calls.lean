import StructuralSearch.Proofs.Evaluation.Reach

/-!
# Evaluations that call each other

Evaluating a utility rule or a restart is a run of a plan of its own, which asks further questions:
the evaluations it calls. A chain of calls that comes back to where it was has no answer, however
many references may be under way at a time.

* `Calls`: an evaluation calls another one.
* `Returns`: an evaluation comes back to the same utility rule, at the same node, with the same
  bindings.

Results:
1. `question_induction`: proofs about questions go from what restarts call to the restarts.
2. `answers_extends`: where more references may be under way, there are more answers, and none is
   another one.
3. `answers_eq_unsettled_of_cycle`: what comes back to itself has no answer.
4. `evaluateWithin_eq_unsettled_of_returns`: an evaluation that returns is never settled.
-/

namespace StructuralSearch

namespace Rule

open Plan

variable {utils : NameMap Rule}

/-! ## Answers -/

/-- What utility rules say while at most `depth` more references may be under way. -/
def referWithin (utils : NameMap Rule) : Nat → String → Judgement
  | 0 => fun name _ _ => if utils.contains name then .unsettled else .rejected
  | depth + 1 => fun name n e =>
    match utils.find? name with
    | some found => evaluateWithin utils depth found n e
    | none => .rejected

/-- The answers to questions while at most `depth` more references may be under way. -/
def answers (utils : NameMap Rule) (depth : Nat) : Question → Verdict :=
  reply (referWithin utils depth)

/-- The plan that answers a question. -/
def body (utils : NameMap Rule) : Question → Plan
  | .reference name n e =>
    match utils.find? name with
    | some found => plan found n e
    | none => .done none
  | .restart r n => plan r n .empty

/-- All parts of a rule are evaluated with the same references. -/
theorem evaluateWithin_eq_judge (depth : Nat) (rule : Rule) :
    evaluateWithin utils depth rule = judge (referWithin utils depth) rule := by
  cases depth <;> rfl

/-- Evaluating a rule is running its plan with these answers. -/
theorem evaluateWithin_eq_run (depth : Nat) (rule : Rule) (n : Node) (e : Env) :
    evaluateWithin utils depth rule n e = (plan rule n e).run (answers utils depth) := by
  rw [answers, ← judge_eq_run, evaluateWithin_eq_judge]

theorem answers_restart (depth : Nat) (r : Rule) (n : Node) :
    answers utils depth (.restart r n) =
      (body utils (.restart r n)).run (answers utils depth) := by
  rw [answers, reply_restart, judge_eq_run]
  rfl

theorem answers_reference (depth : Nat) (name : String) (n : Node) (e : Env) :
    answers utils (depth + 1) (.reference name n e) =
      (body utils (.reference name n e)).run (answers utils depth) := by
  simp only [answers, reply, referWithin, body]
  cases utils.find? name with
  | none => rfl
  | some found => exact evaluateWithin_eq_run depth found n e

theorem answers_zero (name : String) (n : Node) (e : Env) :
    answers utils 0 (.reference name n e) =
      if utils.contains name then .unsettled else .rejected := rfl

/-! ## Answers are bindings that have grown -/

/-- The patterns of all utility rules. -/
def utilPatterns (utils : NameMap Rule) : List Pattern := listPatterns (utils.map (·.2))

/-- The restarts of all utility rules. -/
def utilRestarts (utils : NameMap Rule) : List Rule := listRestarts (utils.map (·.2))

theorem mem_lists {r : Rule} {rules : List Rule} (h : r ∈ rules) :
    r.patterns ⊆ listPatterns rules ∧ r.restarts ⊆ listRestarts rules := by
  induction rules with
  | nil => exact absurd h List.not_mem_nil
  | cons r' rules ih =>
    rw [listPatterns, listRestarts]
    rcases List.mem_cons.mp h with rfl | h
    · exact ⟨List.subset_append_left _ _, List.subset_append_left _ _⟩
    · exact ⟨List.Subset.trans (ih h).1 (List.subset_append_right _ _),
        List.Subset.trans (ih h).2 (List.subset_append_right _ _)⟩

theorem subset_of_find? {name : String} {found : Rule} (h : utils.find? name = some found) :
    found.patterns ⊆ utilPatterns utils ∧ found.restarts ⊆ utilRestarts utils :=
  mem_lists (List.mem_map.mpr ⟨_, NameMap.mem_of_find? h, rfl⟩)

theorem answers_replies {ps : List Pattern} (hps : utilPatterns utils ⊆ ps) (depth : Nat) :
    Replies (answers utils depth) (Answered ps) := by
  induction depth with
  | zero =>
    intro q e h
    cases q with
    | reference name n e' =>
      rw [answers_zero] at h
      split at h <;> simp at h
    | restart r n => trivial
  | succ depth ih =>
    intro q e h
    cases q with
    | reference name n e' =>
      rw [answers_reference, body] at h
      cases hf : utils.find? name with
      | none =>
        rw [hf] at h
        simp [run, Verdict.ofOption] at h
      | some found =>
        rw [hf] at h
        have hkeeps := plan_keeps found n e' (Node.ofTree_self n)
          (List.Subset.trans (subset_of_find? hf).1 hps) (fun _ hr => hr)
        exact hkeeps.bound_of_run ih h
    | restart r n => trivial

/-- The restarts that an evaluation calls stand inside the rule. -/
theorem inside_of_asks {depth : Nat} {rule r : Rule} {n m : Node} {e : Env}
    (h : Asks (answers utils depth) (plan rule n e) (.restart r m)) : Inside r rule := by
  have hkeeps := plan_keeps rule n e (Node.ofTree_self n)
    (List.subset_append_left rule.patterns (utilPatterns utils)) (fun _ hr => hr)
  have hasked := hkeeps.asked_of_asks
    (answers_replies (List.subset_append_right rule.patterns (utilPatterns utils)) depth) h
  exact inside_of_mem_restarts rule r hasked.1

/-! ## Calls -/

/-- The evaluation that answers the first question asks the second. -/
def Calls (utils : NameMap Rule) (q q' : Question) : Prop :=
  ∃ depth, Asks (answers utils depth) (body utils q) q'

/-- What is shown of references, and of restarts from what they call, holds of all questions. -/
@[elab_as_elim]
theorem question_induction (utils : NameMap Rule) {motive : Question → Prop}
    (reference : ∀ name n e, motive (.reference name n e))
    (restart : ∀ r n, (∀ q, Calls utils (.restart r n) q → motive q) → motive (.restart r n))
    (q : Question) : motive q := by
  have hrestart : ∀ r n, motive (.restart r n) := by
    intro r
    induction r using inside_induction with
    | step r ih =>
      refine fun n => restart r n fun q ⟨depth, hasks⟩ => ?_
      cases q with
      | reference name m e => exact reference name m e
      | restart r' m => exact ih r' (inside_of_asks hasks) m
  cases q with
  | reference name n e => exact reference name n e
  | restart r n => exact hrestart r n

/-! ## More references -/

/-- If there are more answers about utility rules, there are more answers. -/
theorem extends_of_references {depth depth' : Nat}
    (h : ∀ name n e, answers utils depth (.reference name n e) ≠ .unsettled →
      answers utils depth' (.reference name n e) = answers utils depth (.reference name n e)) :
    Extends (answers utils depth) (answers utils depth') := by
  intro q hsettled
  induction q using question_induction utils with
  | reference name n e => exact h name n e hsettled
  | restart r n ih =>
    rw [answers_restart] at hsettled
    rw [answers_restart, answers_restart]
    exact run_of_extends (fun q hasks => ih q ⟨depth, hasks⟩) hsettled

theorem answers_extends_succ (depth : Nat) :
    Extends (answers utils depth) (answers utils (depth + 1)) := by
  induction depth with
  | zero =>
    refine extends_of_references fun name n e hsettled => ?_
    rw [answers_zero] at hsettled
    rw [answers_zero, answers_reference, body]
    by_cases hc : utils.contains name = true
    · simp [hc] at hsettled
    · have hnone : utils.find? name = none := by simpa [NameMap.contains] using hc
      simp [hc, hnone, run, Verdict.ofOption]
  | succ depth ih =>
    refine extends_of_references fun name n e hsettled => ?_
    rw [answers_reference] at hsettled
    rw [answers_reference, answers_reference]
    exact run_of_extends (fun q _ hq => ih q hq) hsettled

/-- Where more references may be under way, there are more answers, and none is another one. -/
theorem answers_extends {depth depth' : Nat} (h : depth ≤ depth') :
    Extends (answers utils depth) (answers utils depth') := by
  induction h with
  | refl => exact fun _ _ => rfl
  | step _ ih => exact ih.trans (answers_extends_succ _)

/-- An evaluation that settles comes to the same verdict with more references under way. -/
theorem evaluateWithin_of_le {depth depth' : Nat} (h : depth ≤ depth') {rule : Rule} {n : Node}
    {e : Env} (hsettled : evaluateWithin utils depth rule n e ≠ .unsettled) :
    evaluateWithin utils depth' rule n e = evaluateWithin utils depth rule n e := by
  rw [evaluateWithin_eq_run] at hsettled
  rw [evaluateWithin_eq_run, evaluateWithin_eq_run]
  exact run_of_extends (fun q _ hq => answers_extends h q hq) hsettled

/-! ## Evaluations that return -/

/-- A run asks a question, itself or through the evaluations that it calls. -/
def Reaches (utils : NameMap Rule) (p : Plan) (q : Question) : Prop :=
  ∃ first, (∃ depth, Asks (answers utils depth) p first) ∧
    Relation.ReflTransGen (Calls utils) first q

/-- The evaluation of a rule comes to a utility rule at some node with some bindings, and from there
to the same utility rule at the same node with the same bindings. -/
def Returns (utils : NameMap Rule) (rule : Rule) (n : Node) (e : Env) : Prop :=
  ∃ name m e', Reaches utils (plan rule n e) (.reference name m e') ∧
    Relation.TransGen (Calls utils) (.reference name m e') (.reference name m e')

variable {q q' : Question} {p : Plan}

/-- A run that would ask what has no answer has none. -/
theorem run_eq_unsettled {depth depth' : Nat} (h : Asks (answers utils depth') p q)
    (hq : answers utils depth q = .unsettled) : p.run (answers utils depth) = .unsettled :=
  run_eq_unsettled_of_asks (answers_extends (Nat.le_max_left depth depth'))
    (asks_of_extends (answers_extends (Nat.le_max_right depth depth')) h) hq

/-- A utility rule that calls something exists. -/
theorem answers_zero_of_calls {name : String} {n : Node} {e : Env}
    (h : Calls utils (.reference name n e) q) :
    answers utils 0 (.reference name n e) = .unsettled := by
  obtain ⟨depth, hasks⟩ := h
  rw [body] at hasks
  rw [answers_zero, NameMap.contains]
  cases hf : utils.find? name with
  | none =>
    rw [hf] at hasks
    cases hasks
  | some found => rfl

/-- What calls something without an answer has none. -/
theorem answers_eq_unsettled_of_calls (h : Calls utils q q')
    (hq' : ∀ depth, answers utils depth q' = .unsettled) (depth : Nat) :
    answers utils depth q = .unsettled := by
  cases q with
  | reference name n e =>
    cases depth with
    | zero => exact answers_zero_of_calls h
    | succ depth =>
      rw [answers_reference]
      exact run_eq_unsettled h.choose_spec (hq' depth)
  | restart r n =>
    rw [answers_restart]
    exact run_eq_unsettled h.choose_spec (hq' depth)

/-- What leads to something without an answer has none. -/
theorem answers_eq_unsettled_of_path (h : Relation.ReflTransGen (Calls utils) q q')
    (hq' : ∀ depth, answers utils depth q' = .unsettled) (depth : Nat) :
    answers utils depth q = .unsettled := by
  induction h using Relation.ReflTransGen.head_induction_on generalizing depth with
  | refl => exact hq' depth
  | head hcall _ ih => exact answers_eq_unsettled_of_calls hcall ih depth

theorem exists_calls_of_cycle (h : Relation.TransGen (Calls utils) q q) :
    ∃ q', Calls utils q q' ∧ Relation.TransGen (Calls utils) q' q' := by
  obtain ⟨q', hcall, hback⟩ := Relation.TransGen.head'_iff.mp h
  exact ⟨q', hcall, Relation.TransGen.tail' hback hcall⟩

/-- A cycle is not one of restarts only, since these get smaller. -/
theorem answers_of_cycle {depth : Nat}
    (href : ∀ name n e, Relation.TransGen (Calls utils) (.reference name n e)
      (.reference name n e) → answers utils depth (.reference name n e) = .unsettled)
    (h : Relation.TransGen (Calls utils) q q) : answers utils depth q = .unsettled := by
  induction q using question_induction utils with
  | reference name n e => exact href name n e h
  | restart r n ih =>
    obtain ⟨q', ⟨depth', hasks⟩, hcycle⟩ := exists_calls_of_cycle h
    rw [answers_restart]
    exact run_eq_unsettled hasks (ih q' ⟨depth', hasks⟩ hcycle)

/-- What comes back to itself has no answer. -/
theorem answers_eq_unsettled_of_cycle (h : Relation.TransGen (Calls utils) q q) (depth : Nat) :
    answers utils depth q = .unsettled := by
  -- along a cycle one reference fewer may be under way each time
  induction depth generalizing q with
  | zero =>
    refine answers_of_cycle (fun name n e h => ?_) h
    obtain ⟨q', hcall, -⟩ := exists_calls_of_cycle h
    exact answers_zero_of_calls hcall
  | succ depth ih =>
    refine answers_of_cycle (fun name n e h => ?_) h
    obtain ⟨q', ⟨depth', hasks⟩, hcycle⟩ := exists_calls_of_cycle h
    rw [answers_reference]
    exact run_eq_unsettled hasks (ih hcycle)

/-- An evaluation that returns is never settled. -/
theorem evaluateWithin_eq_unsettled_of_returns {rule : Rule} {n : Node} {e : Env}
    (h : Returns utils rule n e) (depth : Nat) :
    evaluateWithin utils depth rule n e = .unsettled := by
  obtain ⟨name, m, e', ⟨first, ⟨depth', hasks⟩, hpath⟩, hcycle⟩ := h
  have hfirst := answers_eq_unsettled_of_path hpath (answers_eq_unsettled_of_cycle hcycle)
  rw [evaluateWithin_eq_run]
  exact run_eq_unsettled hasks (hfirst depth)

end Rule

end StructuralSearch
