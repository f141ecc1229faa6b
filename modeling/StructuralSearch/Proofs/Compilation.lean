import Mathlib.Logic.Relation
import StructuralSearch.Proofs.Except
import StructuralSearch.Rule.Compile

/-!
# What compiling a rule accepts

Compiling a rule compiles every rule that stands in it, whether it is combined, negated, counted by,
searched for or stopped by. How a relation searches may be said by its target only, and a reference
has to name a utility rule.

* `RuleSpec.Occurs`: a rule stands in another one, as the target of a relation or otherwise.
* `Rule.Contains`: the same for compiled rules.

Results:
1. `RuleSpec.compile_eq_ok_iff`, `Clause.compile_relation_eq_ok_iff`: when a rule compiles on its
   own, and when it does as a target.
2. `RuleSpec.compilesAs_of_occurs`: all that stands in a rule that compiles has been compiled.
3. `Rule.Compiled.mem_of_contains`: compiled rules refer to nothing but utility rules.
-/

namespace StructuralSearch

variable {language : Language} {utils : List String}

/-! ## Rules in rules -/

namespace RuleSpec

/-- The second rule stands in the first and is not the target of a relation. -/
inductive HasPart : RuleSpec → RuleSpec → Prop
  | all {r part : RuleSpec} {rules : List RuleSpec} :
      .all rules ∈ r.clauses → part ∈ rules → HasPart r part
  | any {r part : RuleSpec} {rules : List RuleSpec} :
      .any rules ∈ r.clauses → part ∈ rules → HasPart r part
  | not {r part : RuleSpec} : .not part ∈ r.clauses → HasPart r part
  | ofRule {r part : RuleSpec} {position : PositionSpec} {reverse : Bool} :
      .nthChild (.full position (some part) reverse) ∈ r.clauses → HasPart r part
  | stop {r part : RuleSpec} : r.stopBy = some (.rule part) → HasPart r part

/-- A rule stands in the whole, at any depth: as the target of a relation, if one is given, and
otherwise in another place. -/
inductive Occurs (whole : RuleSpec) : Option Relation → RuleSpec → Prop
  | whole : Occurs whole none whole
  | part {place : Option Relation} {r part : RuleSpec} :
      Occurs whole place r → r.HasPart part → Occurs whole none part
  | target {place : Option Relation} {r target : RuleSpec} {relation : Relation} :
      Occurs whole place r → .relation relation target ∈ r.clauses →
      Occurs whole (some relation) target

end RuleSpec

namespace Rule

/-- The second rule stands in the first. -/
inductive HasPart : Rule → Rule → Prop
  | all {rules : List Rule} {r : Rule} : r ∈ rules → HasPart (all rules) r
  | any {rules : List Rule} {r : Rule} : r ∈ rules → HasPart (any rules) r
  | not {r : Rule} : HasPart (not r) r
  | ofRule {f : Formula} {r : Rule} {reverse : Bool} : HasPart (nthChild f (some r) reverse) r
  | target {r : Relation} {target : Rule} {stop : StopBy Rule} {field : Option String} :
      HasPart (relation r target stop field) target
  | stop {r : Relation} {target stop : Rule} {field : Option String} :
      HasPart (relation r target (.rule stop) field) stop

/-- The second rule is the first or stands in it, at any depth. -/
def Contains : Rule → Rule → Prop := Relation.ReflTransGen HasPart

theorem Contains.step {whole rule part : Rule} (h : Contains whole rule) (k : HasPart rule part) :
    Contains whole part := Relation.ReflTransGen.tail h k

end Rule

/-! ## What each function accepts -/

namespace RuleSpec

variable {spec : RuleSpec} {rules : List Rule} {rule : Rule}

theorem compileClauses_eq (cs : List Clause) :
    compileClauses language utils cs = cs.mapM (Clause.compile language utils) := by
  induction cs with
  | nil => rfl
  | cons c cs ih =>
    rw [compileClauses, ih, List.mapM_cons]

theorem compileList_eq (specs : List RuleSpec) :
    compileList language utils specs = specs.mapM (compile language utils) := by
  induction specs with
  | nil => rfl
  | cons spec specs ih =>
    rw [compileList, ih, List.mapM_cons]

/-- Several rules are joined to one that asks for all of them. -/
theorem join_cases (h : join rules = .ok rule) : rules = [rule] ∨ rule = .all rules := by
  match rules, h with
  | [_], h => exact Or.inl (congrArg ([·]) (Except.ok.inj h))
  | _ :: _ :: _, h => exact Or.inr (Except.ok.inj h).symm

/-- A rule that compiles on its own has clauses, and neither a boundary nor a field. -/
theorem compile_eq_ok_iff : spec.compile language utils = .ok rule ↔
    ∃ clauses rules, spec = .mk clauses none none ∧
      compileClauses language utils clauses = .ok rules ∧ join rules = .ok rule := by
  obtain ⟨clauses, stop, field⟩ := spec
  cases stop with
  | some stop => simp [RuleSpec.compile]
  | none =>
    cases field with
    | some field => simp [RuleSpec.compile]
    | none => simp [RuleSpec.compile, Except.bind_eq_ok_iff]

/-- A field is accepted if the relation takes one and the grammar has it. -/
theorem checkField_eq_ok_iff {r : Relation} {field field' : Option String} :
    checkField language r field = .ok field' ↔
      field' = field ∧
        ∀ f, field = some f → r.takesField = true ∧ language.grammar.hasField f = true := by
  cases field with
  | none =>
    rw [checkField, Except.ok.injEq]
    exact ⟨fun h => ⟨h.symm, by simp⟩, fun h => h.1.symm⟩
  | some f =>
    rw [checkField]
    cases r.takesField <;> cases hfield : language.grammar.hasField f <;>
      simp [eq_comm (a := some f), hfield]

end RuleSpec

namespace Clause

variable {r : Relation} {target : RuleSpec} {rule : Rule}

/-- A rule that compiles as a target may have a boundary, and a field if the relation takes it. -/
theorem compile_relation_eq_ok_iff :
    (relation r target).compile language utils = .ok rule ↔
      ∃ field stop rules compiled, RuleSpec.checkField language r target.field = .ok field ∧
        RuleSpec.compileStop language utils target.stopBy = .ok stop ∧
        RuleSpec.compileClauses language utils target.clauses = .ok rules ∧
        RuleSpec.join rules = .ok compiled ∧ rule = .relation r compiled stop field := by
  obtain ⟨clauses, stop, field⟩ := target
  simp only [compile, RuleSpec.clauses, RuleSpec.stopBy, RuleSpec.field, Except.bind_eq_ok_iff,
    pure, Except.pure, Except.ok.injEq]
  constructor
  · rintro ⟨field, hfield, stop, hstop, rules, hrules, compiled, hjoin, rfl⟩
    exact ⟨field, stop, rules, compiled, hfield, hstop, hrules, hjoin, rfl⟩
  · rintro ⟨field, stop, rules, compiled, hfield, hstop, hrules, hjoin, rfl⟩
    exact ⟨field, hfield, stop, hstop, rules, hrules, compiled, hjoin, rfl⟩

end Clause

/-! ## Rules as written -/

namespace RuleSpec

variable {spec whole part : RuleSpec} {place : Option Relation}

/-- The rule compiles: as the target of a relation, if one is given, and otherwise on its own. -/
def CompilesAs (language : Language) (utils : List String) (spec : RuleSpec) :
    Option Relation → Prop
  | none => ∃ rule, spec.compile language utils = .ok rule
  | some r => ∃ rule, (Clause.relation r spec).compile language utils = .ok rule

/-- Every clause of a rule that compiles has been compiled. -/
theorem CompilesAs.clause (h : spec.CompilesAs language utils place) {c : Clause}
    (hc : c ∈ spec.clauses) : ∃ rule, c.compile language utils = .ok rule := by
  have hclauses : ∃ rules, compileClauses language utils spec.clauses = .ok rules := by
    cases place with
    | none =>
      obtain ⟨_, h⟩ := h
      obtain ⟨clauses, rules, rfl, hclauses, -⟩ := compile_eq_ok_iff.mp h
      exact ⟨rules, hclauses⟩
    | some r =>
      obtain ⟨_, h⟩ := h
      obtain ⟨_, _, rules, _, -, -, hclauses, -, -⟩ := Clause.compile_relation_eq_ok_iff.mp h
      exact ⟨rules, hclauses⟩
  obtain ⟨rules, hclauses⟩ := hclauses
  rw [compileClauses_eq] at hclauses
  obtain ⟨rule, -, hrule⟩ := List.exists_of_mapM_of_mem hclauses hc
  exact ⟨rule, hrule⟩

/-- So has its stop rule, on its own. -/
theorem CompilesAs.stop (h : spec.CompilesAs language utils place)
    (hstop : spec.stopBy = some (.rule part)) : part.CompilesAs language utils none := by
  cases place with
  | none =>
    obtain ⟨_, h⟩ := h
    obtain ⟨_, _, rfl, -, -⟩ := compile_eq_ok_iff.mp h
    cases hstop
  | some r =>
    obtain ⟨_, h⟩ := h
    obtain ⟨_, _, _, _, -, h, -, -, -⟩ := Clause.compile_relation_eq_ok_iff.mp h
    rw [hstop, compileStop] at h
    obtain ⟨rule, hrule, -⟩ := Except.bind_eq_ok_iff.mp h
    exact ⟨rule, hrule⟩

theorem compilesAs_of_list {specs : List RuleSpec} {rules : List Rule}
    (h : compileList language utils specs = .ok rules) (hpart : part ∈ specs) :
    part.CompilesAs language utils none := by
  rw [compileList_eq] at h
  obtain ⟨rule, -, hrule⟩ := List.exists_of_mapM_of_mem h hpart
  exact ⟨rule, hrule⟩

/-- What stands in a rule that compiles, and is not a target, compiles on its own. -/
theorem CompilesAs.hasPart (h : spec.CompilesAs language utils place) (hpart : spec.HasPart part) :
    part.CompilesAs language utils none := by
  cases hpart with
  | all hc hpart =>
    obtain ⟨_, h⟩ := h.clause hc
    obtain ⟨_, hrules, -⟩ := Except.bind_eq_ok_iff.mp h
    exact compilesAs_of_list hrules hpart
  | any hc hpart =>
    obtain ⟨_, h⟩ := h.clause hc
    obtain ⟨_, hrules, -⟩ := Except.bind_eq_ok_iff.mp h
    exact compilesAs_of_list hrules hpart
  | not hc =>
    obtain ⟨_, h⟩ := h.clause hc
    obtain ⟨rule, hrule, -⟩ := Except.bind_eq_ok_iff.mp h
    exact ⟨rule, hrule⟩
  | ofRule hc =>
    obtain ⟨_, h⟩ := h.clause hc
    obtain ⟨rule, hrule, -⟩ := Except.bind_eq_ok_iff.mp h
    exact ⟨rule, hrule⟩
  | stop hstop => exact h.stop hstop

/-- All that stands in a rule that compiles has been compiled, as what it stands there. -/
theorem compilesAs_of_occurs (h : whole.CompilesAs language utils none)
    (hpart : whole.Occurs place part) : part.CompilesAs language utils place := by
  induction hpart with
  | whole => exact h
  | part _ hpart ih => exact ih.hasPart hpart
  | target _ htarget ih => exact ih.clause htarget

/-- Only a target has a boundary, and only that of a relation which takes one has a field. -/
theorem CompilesAs.keys (h : spec.CompilesAs language utils place) :
    (spec.stopBy.isSome = true → place.isSome = true) ∧
      ∀ f, spec.field = some f →
        ∃ r, place = some r ∧ r.takesField = true ∧ language.grammar.hasField f = true := by
  cases place with
  | none =>
    obtain ⟨_, h⟩ := h
    obtain ⟨_, _, rfl, -, -⟩ := compile_eq_ok_iff.mp h
    exact ⟨by simp [stopBy], by simp [field]⟩
  | some r =>
    obtain ⟨_, h⟩ := h
    obtain ⟨_, _, _, _, hfield, -, -, -, -⟩ := Clause.compile_relation_eq_ok_iff.mp h
    exact ⟨fun _ => rfl, fun f hf => ⟨r, rfl, (checkField_eq_ok_iff.mp hfield).2 f hf⟩⟩

end RuleSpec

/-! ## Compiled rules -/

namespace Rule

variable {rule part : Rule} {rules : List Rule} {spec : RuleSpec} {name : String}

/-- The rule has been compiled from a clause, or joins rules that have. -/
inductive Compiled (language : Language) (utils : List String) : Rule → Prop
  | clause {c : Clause} {rule : Rule} :
      c.compile language utils = .ok rule → Compiled language utils rule
  | joined {rules : List Rule} :
      (∀ r ∈ rules, ∃ c : Clause, c.compile language utils = .ok r) →
      Compiled language utils (all rules)

theorem compiled_of_join {clauses : List Clause}
    (hclauses : RuleSpec.compileClauses language utils clauses = .ok rules)
    (hjoin : RuleSpec.join rules = .ok rule) : rule.Compiled language utils := by
  rw [RuleSpec.compileClauses_eq] at hclauses
  have hstems : ∀ r ∈ rules, ∃ c : Clause, c.compile language utils = .ok r := fun r hr =>
    (List.exists_of_mem_mapM hclauses hr).imp fun _ h => h.2
  rcases RuleSpec.join_cases hjoin with rfl | rfl
  · obtain ⟨c, hc⟩ := hstems rule (List.mem_singleton_self rule)
    exact .clause hc
  · exact .joined hstems

theorem compiled_of_compile (h : spec.compile language utils = .ok rule) :
    rule.Compiled language utils := by
  obtain ⟨_, _, -, hclauses, hjoin⟩ := RuleSpec.compile_eq_ok_iff.mp h
  exact compiled_of_join hclauses hjoin

theorem compiled_of_list {specs : List RuleSpec}
    (h : RuleSpec.compileList language utils specs = .ok rules) :
    ∀ r ∈ rules, r.Compiled language utils := by
  rw [RuleSpec.compileList_eq] at h
  intro r hr
  obtain ⟨spec, -, hspec⟩ := List.exists_of_mem_mapM h hr
  exact compiled_of_compile hspec

theorem compiled_of_stop {stop : Option (StopBy RuleSpec)}
    (h : RuleSpec.compileStop language utils stop = .ok (.rule part)) :
    part.Compiled language utils := by
  match stop, h with
  | some (.rule spec), h =>
    obtain ⟨rule, hrule, h⟩ := Except.bind_eq_ok_iff.mp h
    cases h
    exact compiled_of_compile hrule

/-- What a clause compiles to is no reference but to a utility rule, and its parts have been
compiled. -/
theorem parts_of_clause {c : Clause} (h : c.compile language utils = .ok rule) :
    (∀ name, rule = util name → name ∈ utils) ∧
      ∀ part, rule.HasPart part → part.Compiled language utils := by
  -- a clause about the node alone compiles to a rule without parts
  cases c with
  | pattern p =>
    obtain ⟨q, -, rfl⟩ := Except.map_eq_ok_iff.mp h
    exact ⟨by simp, fun _ hpart => by cases hpart⟩
  | kind name =>
    rw [Clause.compile] at h
    split at h
    · cases h
      exact ⟨by simp, fun _ hpart => by cases hpart⟩
    · cases h
  | regex source =>
    rw [Clause.compile] at h
    split at h
    · cases h
      exact ⟨by simp, fun _ hpart => by cases hpart⟩
    · cases h
  | range e =>
    obtain ⟨e, -, h⟩ := Except.bind_eq_ok_iff.mp h
    cases h
    exact ⟨by simp, fun _ hpart => by cases hpart⟩
  | nthChild spec =>
    match spec, h with
    | .bare position, h | .full position none reverse, h =>
      obtain ⟨f, -, h⟩ := Except.bind_eq_ok_iff.mp h
      cases h
      exact ⟨by simp, fun _ hpart => by cases hpart⟩
    | .full position (some spec) reverse, h =>
      obtain ⟨ofRule, hofRule, h⟩ := Except.bind_eq_ok_iff.mp h
      obtain ⟨f, -, h⟩ := Except.bind_eq_ok_iff.mp h
      cases h
      refine ⟨by simp, fun part hpart => ?_⟩
      cases hpart
      exact compiled_of_compile hofRule
  | all specs =>
    obtain ⟨rules, hrules, h⟩ := Except.bind_eq_ok_iff.mp h
    cases h
    refine ⟨by simp, fun part hpart => ?_⟩
    cases hpart with
    | all hr => exact compiled_of_list hrules part hr
  | any specs =>
    obtain ⟨rules, hrules, h⟩ := Except.bind_eq_ok_iff.mp h
    cases h
    refine ⟨by simp, fun part hpart => ?_⟩
    cases hpart with
    | any hr => exact compiled_of_list hrules part hr
  | not spec =>
    obtain ⟨rule, hrule, h⟩ := Except.bind_eq_ok_iff.mp h
    cases h
    refine ⟨by simp, fun part hpart => ?_⟩
    cases hpart
    exact compiled_of_compile hrule
  | util name =>
    rw [Clause.compile] at h
    split at h
    · next hname =>
      cases h
      refine ⟨fun _ heq => ?_, fun _ hpart => by cases hpart⟩
      cases heq
      exact List.contains_iff_mem.mp hname
    · cases h
  | relation r target =>
    obtain ⟨_, stop, _, _, -, hstop, hclauses, hjoin, rfl⟩ :=
      Clause.compile_relation_eq_ok_iff.mp h
    refine ⟨by simp, fun part hpart => ?_⟩
    cases hpart with
    | target => exact compiled_of_join hclauses hjoin
    | stop => exact compiled_of_stop hstop

/-- What stands in a compiled rule has been compiled, at any depth. -/
theorem Compiled.contains (h : rule.Compiled language utils) (hpart : rule.Contains part) :
    part.Compiled language utils := by
  induction hpart with
  | refl => exact h
  | tail _ hpart ih =>
    cases ih with
    | clause hc => exact (parts_of_clause hc).2 _ hpart
    | joined hstems =>
      -- the parts are what the clauses compile to
      cases hpart with
      | all hr =>
        obtain ⟨c, hc⟩ := hstems _ hr
        exact .clause hc

/-- Compiled rules refer to nothing but utility rules. -/
theorem Compiled.mem_of_contains (h : rule.Compiled language utils)
    (hname : rule.Contains (util name)) : name ∈ utils := by
  cases h.contains hname with
  | clause hc => exact (parts_of_clause hc).1 name rfl

end Rule

end StructuralSearch
