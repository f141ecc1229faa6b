import StructuralSearch.Proofs.Evaluation.Termination
import StructuralSearch.Proofs.Except
import StructuralSearch.Rule.Compiled

/-!
# When matching a document ends

Matching a document evaluates its rule, and then the constraints one after the other as long as they
hold.

Results:
1. `CompiledRule.matchNode_eq`: matching is what the evaluations come to.
2. `CompiledRule.verdict_eq_unsettled_iff`: matching ends exactly if none of them returns.
3. `evaluation_ends_iff`: when evaluating a rule and when matching a document ends.
4. `mutual_neighbors_return`: two utility rules, accepted by the check of references, that never
   end.
-/

namespace StructuralSearch

namespace CompiledRule

/-- What the constraints come to, one after the other. -/
def judgeConstraints (utils : NameMap Rule) (e : Env) : NameMap Rule → Verdict
  | [] => .accepted e
  | (name, r) :: rest =>
    match e.node? name with
    | none => .rejected
    | some n => (r.evaluate utils n .empty).andThen fun _ => judgeConstraints utils e rest

/-- What matching a document comes to. -/
def verdict (c : CompiledRule) (n : Node) (e : Env) : Verdict :=
  (c.rule.evaluate c.utils n e).andThen fun matched =>
    (judgeConstraints c.utils matched c.constraints).andThen fun matched =>
      .accepted (c.transforms.apply matched)

/-- Matching a document evaluates its rule or one of its constraints, and that evaluation returns.
A constraint is evaluated if those before it hold. -/
def Returns (c : CompiledRule) (n : Node) (e : Env) : Prop :=
  Rule.Returns c.utils c.rule n e ∨
    ∃ matched before name r after m, c.rule.evaluate c.utils n e = .accepted matched ∧
      c.constraints = before ++ (name, r) :: after ∧
      (∀ x ∈ before, ∃ k held, matched.node? x.1 = some k ∧
        x.2.evaluate c.utils k .empty = .accepted held) ∧
      matched.node? name = some m ∧ Rule.Returns c.utils r m .empty

theorem satisfiesConstraints_iff {utils : NameMap Rule} {e : Env} {constraints : NameMap Rule} :
    (constraints.all fun (name, r) =>
      (e.node? name).any fun n => n.satisfies (r.matcher utils)) = true ↔
      judgeConstraints utils e constraints = .accepted e := by
  induction constraints with
  | nil => simp [judgeConstraints]
  | cons x constraints ih =>
    obtain ⟨name, r⟩ := x
    rw [List.all_cons, Bool.and_eq_true, ih, judgeConstraints]
    show (e.node? name).any (fun n => n.satisfies (r.matcher utils)) = true ∧ _ ↔ _
    cases e.node? name with
    | none => simp
    | some n =>
      have hholds : n.satisfies (r.matcher utils) = true ↔
          ∃ held, r.evaluate utils n .empty = .accepted held := by
        rw [Node.satisfies, Rule.matcher]
        cases r.evaluate utils n .empty <;> simp [Verdict.env?]
      rw [Option.any_some, hholds]
      cases hr : r.evaluate utils n .empty <;> simp [hr, Verdict.andThen]

theorem judgeConstraints_eq_accepted {utils : NameMap Rule} {e e' : Env}
    {constraints : NameMap Rule} (h : judgeConstraints utils e constraints = .accepted e') :
    e' = e := by
  induction constraints with
  | nil =>
    cases h
    rfl
  | cons x constraints ih =>
    obtain ⟨name, r⟩ := x
    rw [judgeConstraints] at h
    cases hn : e.node? name with
    | none => simp [hn] at h
    | some n =>
      rw [hn] at h
      cases hr : r.evaluate utils n .empty with
      | accepted held =>
        simp only [hr, Verdict.andThen] at h
        exact ih h
      | rejected => simp [hr, Verdict.andThen] at h
      | unsettled => simp [hr, Verdict.andThen] at h

/-- Matching is what the evaluations come to. -/
theorem matchNode_eq (c : CompiledRule) (n : Node) (e : Env) :
    c.matchNode n e = (c.verdict n e).env? := by
  rw [matchNode, verdict, Rule.matcher]
  cases c.rule.evaluate c.utils n e with
  | rejected => rfl
  | unsettled => rfl
  | accepted matched =>
    simp only [Verdict.env?, Verdict.andThen, Option.bind_eq_bind, Option.bind_some]
    by_cases h : c.satisfiesConstraints matched = true
    · rw [if_pos h, satisfiesConstraints_iff.mp h]
    · rw [if_neg h]
      cases hj : judgeConstraints c.utils matched c.constraints with
      | rejected => rfl
      | unsettled => rfl
      | accepted e' =>
        -- constraints that hold leave the bindings as they are
        obtain rfl := judgeConstraints_eq_accepted hj
        exact absurd (satisfiesConstraints_iff.mpr hj) h

/-- Constraints do not settle exactly if one of them returns, where those before it hold. -/
theorem judgeConstraints_eq_unsettled_iff {utils : NameMap Rule} {e : Env}
    {constraints : NameMap Rule} :
    judgeConstraints utils e constraints = .unsettled ↔
      ∃ before name r after m, constraints = before ++ (name, r) :: after ∧
        (∀ x ∈ before, ∃ k held, e.node? x.1 = some k ∧
          x.2.evaluate utils k .empty = .accepted held) ∧
        e.node? name = some m ∧ Rule.Returns utils r m .empty := by
  induction constraints with
  | nil => simp [judgeConstraints]
  | cons x constraints ih =>
    obtain ⟨name, r⟩ := x
    rw [judgeConstraints]
    constructor
    · intro h
      cases hn : e.node? name with
      | none => simp [hn] at h
      | some n =>
        rw [hn] at h
        cases hr : r.evaluate utils n .empty with
        | rejected => simp [hr, Verdict.andThen] at h
        | unsettled =>
          exact ⟨[], name, r, constraints, n, rfl, by simp, hn,
            Rule.evaluate_eq_unsettled_iff.1.mp hr⟩
        | accepted held =>
          simp only [hr, Verdict.andThen] at h
          obtain ⟨before, name', r', after, m, rfl, hbefore, hm, hreturns⟩ := ih.mp h
          exact ⟨(name, r) :: before, name', r', after, m, rfl,
            List.forall_mem_cons.mpr ⟨⟨n, held, hn, hr⟩, hbefore⟩, hm, hreturns⟩
    · rintro ⟨before, name', r', after, m, heq, hbefore, hm, hreturns⟩
      cases before with
      | nil =>
        cases heq
        simp [hm, Rule.evaluate_eq_unsettled_iff.1.mpr hreturns, Verdict.andThen]
      | cons x before =>
        cases heq
        obtain ⟨⟨k, held, hk, hheld⟩, hbefore⟩ := List.forall_mem_cons.mp hbefore
        simp only [hk, hheld, Verdict.andThen]
        exact ih.mpr ⟨before, name', r', after, m, rfl, hbefore, hm, hreturns⟩

/-- Matching a document ends exactly if no evaluation returns. -/
theorem verdict_eq_unsettled_iff {c : CompiledRule} {n : Node} {e : Env} :
    c.verdict n e = .unsettled ↔ c.Returns n e := by
  rw [verdict, Returns, ← Rule.evaluate_eq_unsettled_iff.1]
  cases hr : c.rule.evaluate c.utils n e with
  | rejected => simp [Verdict.andThen]
  | unsettled => simp [Verdict.andThen]
  | accepted matched =>
    have hj : (judgeConstraints c.utils matched c.constraints).andThen
        (fun matched => .accepted (c.transforms.apply matched)) = .unsettled ↔
        judgeConstraints c.utils matched c.constraints = .unsettled := by
      cases judgeConstraints c.utils matched c.constraints <;> simp [Verdict.andThen]
    show (judgeConstraints c.utils matched c.constraints).andThen _ = .unsettled ↔ _
    rw [hj, judgeConstraints_eq_unsettled_iff]
    constructor
    · rintro ⟨before, name, r, after, m, h⟩
      exact Or.inr ⟨matched, before, name, r, after, m, rfl, h⟩
    · rintro (h | ⟨matched', before, name, r, after, m, h, hconstraint⟩)
      · cases h
      · cases h
        exact ⟨before, name, r, after, m, hconstraint⟩

end CompiledRule

/-- The evaluation of a rule ends, that is, some number of references under way is enough for it,
exactly if it never comes back to the same utility rule at the same node with the same bindings, and
then the bounded evaluation comes to the same. Matching a document ends exactly if none of the
evaluations that it consists of comes back in this way. -/
theorem evaluation_ends_iff (utils : NameMap Rule) (rule : Rule) (c : CompiledRule) (n : Node)
    (e : Env) :
    ((∃ depth, Rule.evaluateWithin utils depth rule n e ≠ .unsettled) ↔
      ¬ Rule.Returns utils rule n e) ∧
    (∀ depth, Rule.evaluateWithin utils depth rule n e ≠ .unsettled →
      Rule.evaluate utils rule n e = Rule.evaluateWithin utils depth rule n e) ∧
    (c.verdict n e ≠ .unsettled ↔ ¬ c.Returns n e) ∧
    c.matchNode n e = (c.verdict n e).env? := by
  obtain ⟨hreturns, hnever⟩ := @Rule.evaluate_eq_unsettled_iff utils rule n e
  have hends : (∃ depth, Rule.evaluateWithin utils depth rule n e ≠ .unsettled) ↔
      Rule.evaluate utils rule n e ≠ .unsettled := by
    rw [ne_eq, hnever, not_forall]
  refine ⟨hends.trans (not_congr hreturns), fun depth hsettled => ?_,
    not_congr CompiledRule.verdict_eq_unsettled_iff, c.matchNode_eq n e⟩
  -- with as many references as both bounds allow, both come to the same
  have hsettled' := hends.mp ⟨depth, hsettled⟩
  have hmax := Rule.evaluateWithin_of_le
    (Nat.le_max_left depth (Rule.referenceBound utils rule n.tree.size)) hsettled
  have hmax' := Rule.evaluateWithin_of_le
    (Nat.le_max_right depth (Rule.referenceBound utils rule n.tree.size)) hsettled'
  exact hmax'.symm.trans hmax

/-! ## Two words -/

/-- Two words. -/
def twoWords : Tree where
  stamp := 0
  language := .parsing fun _ => none
  source := "a b".toList
  records :=
    [.plain none "words" true 0 3, .plain (some 0) "word" true 0 1,
      .plain (some 0) "word" true 2 3]

/-- Nodes that are a word, or have such a node. -/
def holdsWord : CompiledRule where
  rule := .util "nested"
  constraints := []
  utils := [("nested", .any [.kind "word", .relation .has (.util "nested") .neighbor none])]
  transforms := []
  fix := none

/-- Two references under way are enough to find the words below the root. -/
theorem holdsWord_ends :
    ¬ holdsWord.Returns twoWords.root .empty ∧
      holdsWord.matchNode twoWords.root .empty = some .empty := by
  have hbelow : Rule.evaluateWithin holdsWord.utils 2 holdsWord.rule twoWords.root .empty =
      .accepted .empty := rfl
  have hsettled : Rule.evaluateWithin holdsWord.utils 2 holdsWord.rule twoWords.root .empty ≠
      .unsettled := by simp [hbelow]
  obtain ⟨-, hsame, hends, hmatch⟩ :=
    evaluation_ends_iff holdsWord.utils holdsWord.rule holdsWord twoWords.root .empty
  have hverdict : holdsWord.verdict twoWords.root .empty = .accepted .empty := by
    rw [CompiledRule.verdict, hsame 2 hsettled, hbelow]
    rfl
  refine ⟨hends.mp (by simp [hverdict]), ?_⟩
  rw [hmatch, hverdict]
  rfl

/-- A word whose neighbor is what a utility rule says. -/
def besideWord (r : Relation) (name : String) : RuleSpec :=
  .mk [.kind "word", .relation r (.only (.util name))] none none

/-- A word before a word that stands after such a word. -/
def mutualNeighbors : RuleDocument :=
  { RuleDocument.ofRule (.only (.util "a")) with
    utils := [("a", besideWord .precedes "b"), ("b", besideWord .follows "a")] }

/-- The compiled utility rules. -/
def mutualNeighborUtils : NameMap Rule :=
  [("a", .all [.kind "word", .relation .precedes (.util "b") .neighbor none]),
    ("b", .all [.kind "word", .relation .follows (.util "a") .neighbor none])]

theorem compile_mutualNeighbors :
    ∃ transforms, CompiledRule.compile twoWords.language mutualNeighbors =
      .ok ⟨.util "a", [], mutualNeighborUtils, transforms, none⟩ := by
  have hok : (checkUtils mutualNeighbors.utils).isOk = true := by decide +kernel
  obtain ⟨_, hcheck⟩ := Except.exists_of_isOk hok
  rw [CompiledRule.compile, compileUtils, hcheck]
  exact ⟨_, rfl⟩

/-- The check of references accepts utility rules that go to the next word and back. Evaluating them
at the first word never ends. -/
theorem mutual_neighbors_return :
    ∃ c, CompiledRule.compile twoWords.language mutualNeighbors = .ok c ∧
      Rule.Returns c.utils c.rule ⟨twoWords, 1⟩ .empty ∧
      (∀ depth, Rule.evaluateWithin c.utils depth c.rule ⟨twoWords, 1⟩ .empty = .unsettled) ∧
      c.verdict ⟨twoWords, 1⟩ .empty = .unsettled := by
  obtain ⟨transforms, hc⟩ := compile_mutualNeighbors
  have hthere : Rule.Calls mutualNeighborUtils (.reference "a" ⟨twoWords, 1⟩ .empty)
      (.reference "b" ⟨twoWords, 2⟩ .empty) :=
    ⟨0, show Plan.Asks _ (.ask _ _) _ from .now⟩
  have hback : Rule.Calls mutualNeighborUtils (.reference "b" ⟨twoWords, 2⟩ .empty)
      (.reference "a" ⟨twoWords, 1⟩ .empty) :=
    ⟨0, show Plan.Asks _ (.ask _ _) _ from .now⟩
  have hreturns : Rule.Returns mutualNeighborUtils (.util "a") ⟨twoWords, 1⟩ .empty :=
    ⟨"a", ⟨twoWords, 1⟩, .empty, ⟨_, ⟨0, show Plan.Asks _ (.ask _ _) _ from .now⟩, .refl⟩,
      .tail (.single hthere) hback⟩
  exact ⟨_, hc, hreturns, Rule.evaluateWithin_eq_unsettled_of_returns hreturns,
    CompiledRule.verdict_eq_unsettled_iff.mpr (Or.inl hreturns)⟩

end StructuralSearch
