import StructuralSearch.Proofs.Evaluation.Reach

/-!
# Where bindings come from

A rule that accepts returns the bindings that it was given, with what some of its patterns bound.
Not every pattern in a rule can add bindings: what is found beneath `not`, by a stop rule or by the
rule that a position counts by is thrown away.

* `Rule.Passes`: what one rule binds is passed on by another.
* `Rule.Contributes`: the pattern stands where its bindings are passed on.
* `Env.Gains`: bindings that were added by matches of contributing patterns, one after the other.

Results:
1. `Rule.gains_of_judge`: what a part of a rule returns was added by patterns of the whole rule.
2. `Rule.gains_of_evaluate`: what an evaluation that accepts returns was added by contributing
   patterns at nodes of the tree.
-/

namespace StructuralSearch

namespace Rule

/-! ## Rules that pass on what other rules bind -/

/-- What the second rule binds is passed on by the first. -/
inductive Passes (utils : NameMap Rule) : Rule → Rule → Prop
  | target {r : Relation} {target : Rule} {stop : StopBy Rule} {field : Option String} :
      Passes utils (relation r target stop field) target
  | all {rules : List Rule} {r : Rule} : r ∈ rules → Passes utils (all rules) r
  | any {rules : List Rule} {r : Rule} : r ∈ rules → Passes utils (any rules) r
  | util {name : String} {found : Rule} :
      utils.find? name = some found → Passes utils (util name) found

/-- The second rule stands in the first where its bindings are passed on, perhaps through several
rules and utility rules. -/
def Carries (utils : NameMap Rule) : Rule → Rule → Prop := Relation.ReflTransGen (Passes utils)

/-- The pattern stands where its bindings are passed on. -/
def Contributes (utils : NameMap Rule) (rule : Rule) (p : Pattern) : Prop :=
  Carries utils rule (pattern p)

end Rule

/-- The bindings become others by matches of contributing patterns at nodes of a tree. -/
def Env.Gains (utils : NameMap Rule) (rule : Rule) (origin : Node) : Env → Env → Prop :=
  Relation.ReflTransGen fun e e' =>
    ∃ p, rule.Contributes utils p ∧ ∃ m, Node.OfTree origin m ∧ p.matchNode m e = some e'

namespace Rule

/-! ## What evaluations return -/

variable {utils : NameMap Rule} {top : Rule} {refer : String → Judgement} {origin n : Node}
  {e e' : Env}

theorem Carries.step {rule part : Rule} (h : Carries utils top rule) (k : Passes utils rule part) :
    Carries utils top part := Relation.ReflTransGen.tail h k

theorem gains_of_ofBool {b : Bool} (h : Verdict.ofBool e b = .accepted e') :
    Env.Gains utils top origin e e' := by
  cases b with
  | false => cases h
  | true =>
    cases h
    exact .refl

theorem gains_of_negate {v : Verdict} (h : v.negate e = .accepted e') :
    Env.Gains utils top origin e e' := by
  cases v with
  | accepted _ => cases h
  | rejected =>
    cases h
    exact .refl
  | unsettled => cases h

/-- What the utility rules that are carried by a rule return was added by patterns that contribute
to that rule. -/
def ReferGains (utils : NameMap Rule) (top : Rule) (origin : Node) (refer : String → Judgement) :
    Prop :=
  ∀ name, Carries utils top (util name) → ∀ m e e', Node.OfTree origin m →
    refer name m e = .accepted e' → Env.Gains utils top origin e e'

mutual

/-- What a part of a rule returns was added by patterns that contribute to the whole rule, if that
holds for the utility rules. -/
theorem gains_of_judge (hrefer : ReferGains utils top origin refer) (rule : Rule) (n : Node)
    (e e' : Env) (hrule : Carries utils top rule) (hn : Node.OfTree origin n)
    (h : judge refer rule n e = .accepted e') :
    Env.Gains utils top origin e e' := by
  cases rule with
  | pattern p =>
    rw [judge] at h
    cases hm : p.matchNode n e with
    | none => simp [hm, Verdict.ofOption] at h
    | some found =>
      rw [hm] at h
      cases h
      exact .single ⟨p, hrule, n, hn, hm⟩
  | kind name =>
    rw [judge] at h
    exact gains_of_ofBool h
  | regex r =>
    rw [judge] at h
    exact gains_of_ofBool h
  | range extent =>
    rw [judge] at h
    exact gains_of_ofBool h
  | util name =>
    rw [judge] at h
    exact hrefer name hrule n e e' hn h
  | nthChild f ofRule reverse =>
    cases ofRule with
    | none =>
      rw [judge] at h
      exact gains_of_ofBool h
    | some ofRule =>
      rw [judge] at h
      split at h
      · cases h
      · split at h
        · cases h
        · exact gains_of_ofBool h
  | relation r target stop field =>
    have hat : ∃ m, Node.OfTree origin m ∧ judge refer target m e = .accepted e' := by
      cases stop with
      | neighbor | toEnd | rule _ =>
        rw [judge] at h
        obtain ⟨m, hm, h⟩ := exists_of_judgeRelation h
        exact ⟨m, ofTree_walk hn hm, h⟩
    obtain ⟨m, hm, h⟩ := hat
    exact gains_of_judge hrefer target m e e' (hrule.step .target) hm h
  | all rules =>
    rw [judge] at h
    exact gains_of_judgeAll hrefer rules n e e' (fun r hr => hrule.step (.all hr)) hn h
  | any rules =>
    rw [judge] at h
    exact gains_of_judgeAny hrefer rules n e e' (fun r hr => hrule.step (.any hr)) hn h
  | not rule =>
    rw [judge] at h
    exact gains_of_negate h
termination_by structural rule

theorem gains_of_judgeAll (hrefer : ReferGains utils top origin refer) (rules : List Rule)
    (n : Node) (e e' : Env) (hrules : ∀ r ∈ rules, Carries utils top r) (hn : Node.OfTree origin n)
    (h : judgeAll refer rules n e = .accepted e') : Env.Gains utils top origin e e' := by
  cases rules with
  | nil =>
    rw [judgeAll] at h
    cases h
    exact .refl
  | cons r rs =>
    obtain ⟨hr, hrs⟩ := List.forall_mem_cons.mp hrules
    rw [judgeAll] at h
    cases hj : judge refer r n e with
    | accepted e₁ =>
      rw [hj] at h
      exact (gains_of_judge hrefer r n e e₁ hr hn hj).trans
        (gains_of_judgeAll hrefer rs n e₁ e' hrs hn h)
    | rejected => simp [hj, Verdict.andThen] at h
    | unsettled => simp [hj, Verdict.andThen] at h
termination_by structural rules

theorem gains_of_judgeAny (hrefer : ReferGains utils top origin refer) (rules : List Rule)
    (n : Node) (e e' : Env) (hrules : ∀ r ∈ rules, Carries utils top r) (hn : Node.OfTree origin n)
    (h : judgeAny refer rules n e = .accepted e') : Env.Gains utils top origin e e' := by
  cases rules with
  | nil => cases h
  | cons r rs =>
    obtain ⟨hr, hrs⟩ := List.forall_mem_cons.mp hrules
    rw [judgeAny] at h
    rcases exists_of_orElse h with h | h
    · exact gains_of_judge hrefer r n e e' hr hn h
    · exact gains_of_judgeAny hrefer rs n e e' hrs hn h
termination_by structural rules

end

theorem gains_of_evaluateWithin {depth : Nat} {rule : Rule} (hrule : Carries utils top rule)
    (hn : Node.OfTree origin n) (h : evaluateWithin utils depth rule n e = .accepted e') :
    Env.Gains utils top origin e e' := by
  induction depth generalizing rule n e e' with
  | zero =>
    refine gains_of_judge (fun name _ m e e' _ h => ?_) rule n e e' hrule hn h
    -- no reference may be under way, so none accepts
    split at h <;> cases h
  | succ depth ih =>
    refine gains_of_judge (fun name hname m e e' hm h => ?_) rule n e e' hrule hn h
    split at h
    · next found hfound => exact ih (hname.step (.util hfound)) hm h
    · cases h

/-- What an evaluation that accepts returns was added, to what it was given, by contributing
patterns at nodes of the tree. -/
theorem gains_of_evaluate {rule : Rule} (h : evaluate utils rule n e = .accepted e') :
    Env.Gains utils rule n e e' :=
  gains_of_evaluateWithin .refl (Node.ofTree_self n) h

end Rule

end StructuralSearch
