import Mathlib.Data.List.Basic
import StructuralSearch.Rule.Evaluation

/-!
# Plans of evaluations

The evaluation of a rule at a node is a sequence of questions, each asked after what the earlier
ones were answered: what a utility rule says about a node, given what is bound, and whether a rule
accepts a node on its own. A plan is the tree of these questions. Run with answers, it comes to a
verdict, and a question without an answer ends it.

* `Plan.Asks`: the questions that a run asks.
* `Plan.Keeps`: a plan that asks only certain questions, as long as the answers are of a certain
  kind, and then comes to certain bindings.

Results:
1. `Plan.run_eq_unsettled_iff`: a run is unsettled exactly if a question that it asks is.
2. `Plan.run_congr`: the verdict of a run depends on the answers to what it asks only.
3. `Plan.run_of_extends`, `Plan.asks_of_extends`: more answers change neither the verdict of a run
   that settled nor what it asked.
4. `Plan.run_eq_unsettled_of_asks`: a run that would ask a question, if it got that far, is
   unsettled if the question is.
-/

namespace StructuralSearch

/-- What an evaluation asks. -/
inductive Question
  /-- What the utility rule of a name says. -/
  | reference (name : String) (n : Node) (e : Env)
  /-- Whether a rule accepts a node, with nothing bound. -/
  | restart (rule : Rule) (n : Node)

/-- The questions of an evaluation; an answer is what was bound, if the rule accepted. -/
inductive Plan
  | done (result : Option Env)
  | ask (q : Question) (next : Option Env → Plan)

namespace Verdict

/-- Goes on with what a verdict says, if it is settled. -/
def follow : Verdict → (Option Env → Verdict) → Verdict
  | accepted e, next => next (some e)
  | rejected, next => next none
  | unsettled, _ => unsettled

theorem follow_ofOption (o : Option Env) (next : Option Env → Verdict) :
    (ofOption o).follow next = next o := by
  cases o <;> rfl

theorem follow_follow (v : Verdict) (f g : Option Env → Verdict) :
    (v.follow f).follow g = v.follow fun o => (f o).follow g := by
  cases v <;> rfl

theorem exists_ofOption {v : Verdict} (h : v ≠ unsettled) : ∃ o, v = ofOption o := by
  cases v with
  | accepted e => exact ⟨some e, rfl⟩
  | rejected => exact ⟨none, rfl⟩
  | unsettled => exact absurd rfl h

end Verdict

namespace Plan

/-- The verdict that a plan comes to. -/
def run (answer : Question → Verdict) : Plan → Verdict
  | done result => .ofOption result
  | ask q next => (answer q).follow fun o => (next o).run answer

/-- Goes on with what a plan came to. -/
def bind (next : Option Env → Plan) : Plan → Plan
  | done result => next result
  | ask q following => ask q fun o => (following o).bind next

variable {answer answer' : Question → Verdict} {p : Plan} {q : Question}

theorem run_bind (p : Plan) (next : Option Env → Plan) :
    (p.bind next).run answer = (p.run answer).follow fun o => (next o).run answer := by
  induction p with
  | done result => rw [bind, run, Verdict.follow_ofOption]
  | ask q following ih =>
    simp only [bind, run, Verdict.follow_follow]
    exact congrArg _ (funext ih)

/-! ## What a run asks -/

/-- The run asks the question. -/
inductive Asks (answer : Question → Verdict) : Plan → Question → Prop
  | now {q : Question} {next : Option Env → Plan} : Asks answer (ask q next) q
  | later {q q' : Question} {next : Option Env → Plan} {o : Option Env} :
      answer q = .ofOption o → Asks answer (next o) q' → Asks answer (ask q next) q'

theorem ofOption_ne_unsettled (o : Option Env) : Verdict.ofOption o ≠ .unsettled := by
  cases o <;> simp [Verdict.ofOption]

/-- A run is unsettled exactly if a question that it asks is. -/
theorem run_eq_unsettled_iff :
    p.run answer = .unsettled ↔ ∃ q, Asks answer p q ∧ answer q = .unsettled := by
  induction p with
  | done result =>
    refine ⟨fun h => absurd h (ofOption_ne_unsettled result), ?_⟩
    rintro ⟨q, hq, -⟩
    cases hq
  | ask q next ih =>
    rw [run]
    by_cases hq : answer q = .unsettled
    · simp only [hq, Verdict.follow, true_iff]
      exact ⟨q, .now, hq⟩
    obtain ⟨o, ho⟩ := Verdict.exists_ofOption hq
    rw [ho, Verdict.follow_ofOption, ih o]
    constructor
    · rintro ⟨q', hasks, hq'⟩
      exact ⟨q', .later ho hasks, hq'⟩
    · rintro ⟨q', hasks, hq'⟩
      cases hasks with
      | now => exact absurd hq' hq
      | @later _ _ _ o' ho' hasks =>
        -- the run goes on with the one answer that there is
        obtain rfl : o = o' := by
          have h := ho.symm.trans ho'
          cases o <;> cases o' <;> simp_all [Verdict.ofOption]
        exact ⟨q', hasks, hq'⟩

/-! ## More answers -/

/-- The second gives the answers of the first, and perhaps others. -/
def Extends (answer answer' : Question → Verdict) : Prop :=
  ∀ q, answer q ≠ .unsettled → answer' q = answer q

theorem Extends.trans {answer'' : Question → Verdict} (h : Extends answer answer')
    (k : Extends answer' answer'') : Extends answer answer'' := fun q hq =>
  (k q (by rwa [h q hq])).trans (h q hq)

/-- A run comes to the same verdict with the same answers to what it asks. -/
theorem run_congr (h : ∀ q, Asks answer p q → answer' q = answer q) :
    p.run answer' = p.run answer := by
  induction p with
  | done => rfl
  | ask q next ih =>
    rw [run, run, h q .now]
    by_cases hq : answer q = .unsettled
    · rw [hq]
      rfl
    · obtain ⟨o, ho⟩ := Verdict.exists_ofOption hq
      rw [ho, Verdict.follow_ofOption, Verdict.follow_ofOption]
      exact ih o fun q' hq' => h q' (.later ho hq')

/-- A run that settled comes to the same verdict with more answers to what it asks. -/
theorem run_of_extends
    (h : ∀ q, Asks answer p q → answer q ≠ .unsettled → answer' q = answer q)
    (hp : p.run answer ≠ .unsettled) : p.run answer' = p.run answer :=
  run_congr fun q hasks => h q hasks fun hq => hp (run_eq_unsettled_iff.mpr ⟨q, hasks, hq⟩)

/-- With more answers, a run asks what it asked before. -/
theorem asks_of_extends (h : Extends answer answer') (hp : Asks answer p q) : Asks answer' p q := by
  induction hp with
  | now => exact .now
  | later ho _ ih => exact .later ((h _ (by rw [ho]; exact ofOption_ne_unsettled _)).trans ho) ih

/-- With fewer answers a run may not get to a question; but it does not settle without it. -/
theorem run_eq_unsettled_of_asks (h : Extends answer answer') (hp : Asks answer' p q)
    (hq : answer q = .unsettled) : p.run answer = .unsettled := by
  induction hp with
  | now => rw [run, hq]; rfl
  | @later q' _ next o ho _ ih =>
    rw [run]
    by_cases hq' : answer q' = .unsettled
    · rw [hq']
      rfl
    · rw [← h q' hq', ho, Verdict.follow_ofOption]
      exact ih hq

/-! ## What a plan keeps -/

/-- As long as every answer `e` to a question `q` has `reply q e`, the plan asks only what is in
`asked` and comes only to bindings in `bound`. -/
inductive Keeps (reply : Question → Env → Prop) (asked : Question → Prop) (bound : Env → Prop) :
    Plan → Prop
  | done {result : Option Env} : (∀ e, result = some e → bound e) →
      Keeps reply asked bound (done result)
  | ask {q : Question} {next : Option Env → Plan} : asked q →
      (∀ o, (∀ e, o = some e → reply q e) → Keeps reply asked bound (next o)) →
      Keeps reply asked bound (ask q next)

variable {reply : Question → Env → Prop} {asked asked' : Question → Prop}
  {bound bound' : Env → Prop}

theorem Keeps.bind {next : Option Env → Plan} (h : Keeps reply asked bound p)
    (k : ∀ o, (∀ e, o = some e → bound e) → Keeps reply asked bound' (next o)) :
    Keeps reply asked bound' (p.bind next) := by
  induction h with
  | done hresult => exact k _ hresult
  | ask hq _ ih => exact .ask hq ih

theorem Keeps.mono (h : Keeps reply asked bound p) (hasked : ∀ q, asked q → asked' q)
    (hbound : ∀ e, bound e → bound' e) : Keeps reply asked' bound' p := by
  induction h with
  | done hresult => exact .done fun e he => hbound e (hresult e he)
  | ask hq _ ih => exact .ask (hasked _ hq) ih

/-- Answers are replies. -/
def Replies (answer : Question → Verdict) (reply : Question → Env → Prop) : Prop :=
  ∀ q e, answer q = .accepted e → reply q e

theorem eq_some_of_ofOption {q : Question} {o : Option Env} {e : Env}
    (ho : answer q = .ofOption o) (he : o = some e) : answer q = .accepted e := by
  rw [ho, he]
  rfl

theorem Keeps.asked_of_asks (h : Keeps reply asked bound p) (ha : Replies answer reply)
    (hq : Asks answer p q) : asked q := by
  induction hq with
  | now =>
    cases h with
    | ask hq _ => exact hq
  | later ho _ ih =>
    cases h with
    | ask _ hnext => exact ih (hnext _ fun e he => ha _ e (eq_some_of_ofOption ho he))

theorem Keeps.bound_of_run {e : Env} (h : Keeps reply asked bound p) (ha : Replies answer reply)
    (hp : p.run answer = .accepted e) : bound e := by
  induction h with
  | @done result hresult =>
    cases result with
    | none => simp [run, Verdict.ofOption] at hp
    | some e' =>
      cases hp
      exact hresult e rfl
  | @ask q next _ _ ih =>
    rw [run] at hp
    have hq : answer q ≠ .unsettled := by
      intro hq
      simp [hq, Verdict.follow] at hp
    obtain ⟨o, ho⟩ := Verdict.exists_ofOption hq
    rw [ho, Verdict.follow_ofOption] at hp
    exact ih o (fun e he => ha _ e (eq_some_of_ofOption ho he)) hp

end Plan

end StructuralSearch
