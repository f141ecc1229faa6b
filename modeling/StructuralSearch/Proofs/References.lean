import StructuralSearch.Proofs.Dependency
import StructuralSearch.Rule.Compile

/-!
# References between utility rules

A utility rule may refer to another one at the same node: in its own clauses, in combinations, or in
the rule that a position counts by. Utility rules are accepted exactly if all rules that are referred
to in this way exist and none leads back to itself.

* `RuleSpec.Refers`: a rule refers to a utility rule at the same node.
* `UtilsRefer`: the same for the utility rule of a name.

Results:
1. `RuleSpec.mem_references_iff`: the references that are followed are those at the same node.
2. `checkUtils_eq_ok_iff`: which utility rules are accepted, and what the others are refused for.
-/

namespace StructuralSearch

/-- The rule refers to the utility rule in its own clauses, or a rule does that is combined in it,
negated, or counted by. The targets and stop rules of relations are evaluated at other nodes. -/
inductive RuleSpec.Refers : RuleSpec → String → Prop
  | util {r : RuleSpec} {name : String} : .util name ∈ r.clauses → Refers r name
  | all {r part : RuleSpec} {rules : List RuleSpec} {name : String} :
      .all rules ∈ r.clauses → part ∈ rules → Refers part name → Refers r name
  | any {r part : RuleSpec} {rules : List RuleSpec} {name : String} :
      .any rules ∈ r.clauses → part ∈ rules → Refers part name → Refers r name
  | not {r part : RuleSpec} {name : String} :
      .not part ∈ r.clauses → Refers part name → Refers r name
  | ofRule {r part : RuleSpec} {position : PositionSpec} {reverse : Bool} {name : String} :
      .nthChild (.full position (some part) reverse) ∈ r.clauses → Refers part name → Refers r name

/-! ## The references that are followed -/

namespace RuleSpec

variable {name : String}

theorem clauseReferences_eq (cs : List Clause) : clauseReferences cs = cs.map Clause.references := by
  induction cs with
  | nil => rfl
  | cons c cs ih => rw [clauseReferences, ih, List.map_cons]

theorem listReferences_eq (rules : List RuleSpec) :
    listReferences rules = rules.flatMap references := by
  induction rules with
  | nil => rfl
  | cons r rules ih => rw [listReferences, ih, List.flatMap_cons]

theorem mem_listReferences_iff {rules : List RuleSpec} :
    name ∈ listReferences rules ↔ ∃ part ∈ rules, name ∈ part.references := by
  rw [listReferences_eq, List.mem_flatMap]

theorem rank_lt (c : Clause) : c.references.1 < 5 := by
  cases c with
  | nthChild spec =>
    cases spec with
    | bare position => exact Nat.lt_succ_self 4
    | full position ofRule reverse => cases ofRule <;> exact Nat.lt_succ_self 4
  | _ => simp [Clause.references]

/-- The references of a rule are those of its clauses. -/
theorem mem_references_iff_exists {r : RuleSpec} :
    name ∈ r.references ↔ ∃ c ∈ r.clauses, name ∈ c.references.2 := by
  obtain ⟨cs, stop, field⟩ := r
  simp only [references, clauses, clauseReferences_eq, List.mem_flatMap, List.mem_range,
    List.mem_map]
  constructor
  · rintro ⟨rank, -, _, ⟨c, hc, rfl⟩, hname⟩
    split at hname
    · exact ⟨c, hc, hname⟩
    · exact absurd hname List.not_mem_nil
  · rintro ⟨c, hc, hname⟩
    exact ⟨c.references.1, rank_lt c, c.references, ⟨c, hc, rfl⟩, by simpa using hname⟩

mutual

theorem refers_of_mem (r : RuleSpec) (h : name ∈ r.references) : r.Refers name := by
  obtain ⟨c, hc, hname⟩ := mem_references_iff_exists.mp h
  cases r with
  | mk cs stop field => exact refers_of_mem_clauses cs c hc hname _ hc
termination_by structural r

theorem refers_of_mem_clauses (cs : List Clause) :
    ∀ c ∈ cs, name ∈ c.references.2 → ∀ r : RuleSpec, c ∈ r.clauses → r.Refers name := by
  cases cs with
  | nil => exact fun _ hc => absurd hc List.not_mem_nil
  | cons c cs =>
    exact List.forall_mem_cons.mpr ⟨refers_of_mem_clause c, refers_of_mem_clauses cs⟩
termination_by structural cs

theorem refers_of_mem_clause (c : Clause) (h : name ∈ c.references.2) :
    ∀ r : RuleSpec, c ∈ r.clauses → r.Refers name := by
  intro r hc
  cases c with
  | util other =>
    obtain rfl := List.mem_singleton.mp h
    exact .util hc
  | all rules =>
    obtain ⟨part, hpart, hname⟩ := mem_listReferences_iff.mp h
    exact .all hc hpart (refers_of_mem_list rules part hpart hname)
  | any rules =>
    obtain ⟨part, hpart, hname⟩ := mem_listReferences_iff.mp h
    exact .any hc hpart (refers_of_mem_list rules part hpart hname)
  | not part => exact .not hc (refers_of_mem part h)
  | nthChild spec =>
    cases spec with
    | bare position => exact absurd h List.not_mem_nil
    | full position ofRule reverse =>
      cases ofRule with
      | none => exact absurd h List.not_mem_nil
      | some part => exact .ofRule hc (refers_of_mem part h)
  | pattern _ => exact absurd h List.not_mem_nil
  | kind _ => exact absurd h List.not_mem_nil
  | regex _ => exact absurd h List.not_mem_nil
  | range _ => exact absurd h List.not_mem_nil
  | relation _ _ => exact absurd h List.not_mem_nil
termination_by structural c

theorem refers_of_mem_list (rules : List RuleSpec) :
    ∀ part ∈ rules, name ∈ part.references → part.Refers name := by
  cases rules with
  | nil => exact fun _ hpart => absurd hpart List.not_mem_nil
  | cons part rules =>
    exact List.forall_mem_cons.mpr ⟨refers_of_mem part, refers_of_mem_list rules⟩
termination_by structural rules

end

/-- The references that are followed are those at the same node. -/
theorem mem_references_iff {r : RuleSpec} : name ∈ r.references ↔ r.Refers name := by
  refine ⟨refers_of_mem r, fun h => ?_⟩
  induction h with
  | util hc => exact mem_references_iff_exists.mpr ⟨_, hc, List.mem_singleton_self _⟩
  | all hc hpart _ ih =>
    exact mem_references_iff_exists.mpr ⟨_, hc, mem_listReferences_iff.mpr ⟨_, hpart, ih⟩⟩
  | any hc hpart _ ih =>
    exact mem_references_iff_exists.mpr ⟨_, hc, mem_listReferences_iff.mpr ⟨_, hpart, ih⟩⟩
  | not hc _ ih => exact mem_references_iff_exists.mpr ⟨_, hc, ih⟩
  | ofRule hc _ ih => exact mem_references_iff_exists.mpr ⟨_, hc, ih⟩

end RuleSpec

/-! ## Utility rules -/

variable {utils : NameMap RuleSpec}

/-- The utility rule `a` refers to a utility rule `b` at the same node. -/
def UtilsRefer (utils : NameMap RuleSpec) (a b : String) : Prop :=
  ∃ r, utils.find? a = some r ∧ r.Refers b

theorem refers_references_iff {a b : String} :
    Dependency.Refers (utils.map fun (name, r) => (name, r.references)) a b ↔
      UtilsRefer utils a b := by
  simp only [Dependency.Refers, UtilsRefer, NameMap.find?_map, Option.map_eq_some_iff]
  constructor
  · rintro ⟨_, ⟨r, hr, rfl⟩, hb⟩
    exact ⟨r, hr, RuleSpec.mem_references_iff.mp hb⟩
  · rintro ⟨r, hr, hb⟩
    exact ⟨_, ⟨r, hr, rfl⟩, RuleSpec.mem_references_iff.mpr hb⟩

theorem contains_references (name : String) :
    NameMap.contains (utils.map fun (name, r) => (name, r.references)) name =
      utils.contains name := by
  rw [NameMap.contains, NameMap.find?_map, Option.isSome_map, NameMap.contains]

theorem checkUtils_eq_ok_iff_exists : checkUtils utils = .ok () ↔
    ∃ l, Dependency.order (utils.map fun (name, r) => (name, r.references)) = .ok l := by
  simp only [checkUtils, Except.bind_eq_ok_iff, Except.mapError_eq_ok_iff, pure, Except.pure,
    and_true]

theorem checkUtils_eq_error_iff {error : RuleError} : checkUtils utils = .error error ↔
    ∃ fault, Dependency.order (utils.map fun (name, r) => (name, r.references)) = .error fault ∧
      utilFault fault = error := by
  simp only [checkUtils, Except.bind_eq_error_iff, Except.mapError_eq_error_iff, pure, Except.pure,
    reduceCtorEq, and_false, exists_false, or_false]

/-- Utility rules are accepted exactly if all that are referred to at the same node exist and none
leads back to itself. A rule that is refused as cyclic leads back to itself; a name that is refused
as undefined is not that of a utility rule, and one of them refers to it. -/
theorem checkUtils_eq_ok_iff (utils : NameMap RuleSpec) :
    (checkUtils utils = .ok () ↔
      (∀ a b, UtilsRefer utils a b → b ∈ utils.names) ∧
        ∀ a, ¬ Relation.TransGen (UtilsRefer utils) a a) ∧
    ∀ error, checkUtils utils = .error error →
      (∃ name, error = .cyclicUtil name ∧ Relation.TransGen (UtilsRefer utils) name name) ∨
      ∃ name, error = .undefinedUtil name ∧ name ∉ utils.names ∧ ∃ a, UtilsRefer utils a name := by
  have hrefers : Dependency.Refers (utils.map fun (name, r) => (name, r.references)) =
      UtilsRefer utils := funext fun a => funext fun b => propext refers_references_iff
  constructor
  · rw [checkUtils_eq_ok_iff_exists, Dependency.exists_order_iff, hrefers]
    simp only [contains_references, NameMap.contains_iff]
  · intro error herror
    obtain ⟨fault, horder, rfl⟩ := checkUtils_eq_error_iff.mp herror
    rcases Dependency.order_cases (utils.map fun (name, r) => (name, r.references)) with
      ⟨l, hl, -⟩ | ⟨fault', hfault', hholds⟩
    · cases hl.symm.trans horder
    obtain rfl := Except.error.inj (hfault'.symm.trans horder)
    cases fault' with
    | cyclic name =>
      rw [Dependency.Fault.Holds, hrefers] at hholds
      exact Or.inl ⟨name, rfl, hholds⟩
    | undefined name =>
      rw [Dependency.Fault.Holds, hrefers, contains_references,
        NameMap.contains_eq_false_iff] at hholds
      exact Or.inr ⟨name, rfl, hholds⟩

/-- A rule may refer to itself in the target of a relation, and not where it is negated. -/
example :
    (checkUtils [("a", .mk [.relation .has (.mk [.util "a"] none none)] none none)] matches .ok ()) ∧
    (checkUtils [("a", .mk [.not (.mk [.util "a"] none none)] none none)] matches
      .error (.cyclicUtil "a")) := by decide +kernel

end StructuralSearch
