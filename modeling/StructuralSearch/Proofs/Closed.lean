import StructuralSearch.Proofs.Compilation
import StructuralSearch.Proofs.Evaluation.Document
import StructuralSearch.Proofs.NameMap

/-!
# Documents that refer to nothing that is missing

The references in the rules of a compiled document are to utility rules of the document, at any
depth and also in boundaries and counts. What an evaluation asks stands in the rule that it
evaluates, or in a utility rule that it has come to; so it never asks for a utility rule that is not
there.

* `Question.rule`: what a question is about.
* `Rule.Resolves`: there is a utility rule for each reference in a rule.
* `RuleDocument.rules`, `CompiledRule.rules`: the rules of a document.

Results:
1. `Rule.contains_of_asks`: an evaluation asks about what stands in the rule.
2. `Rule.resolves_of_reaches`: where references resolve, those do that an evaluation comes to.
3. `Rule.evaluate_append`: where references resolve, more utility rules change no evaluation.
4. `CompiledRule.mapM_rules`: compiling a document compiles all its rules.
5. `CompiledRule.closed_of_compile`: compiled documents refer to nothing that is missing.
-/

namespace StructuralSearch

/-- What a question is about; of a utility rule, the reference to it. -/
def Question.rule : Question → Rule
  | reference name _ _ => .util name
  | restart r _ => r

namespace Rule

open Plan

variable {utils : NameMap Rule} {whole rule part : Rule} {n : Node} {e : Env} {q q' : Question}

/-! ## What evaluations ask -/

/-- The plan asks about nothing but what stands in the rule, whatever the answers are. -/
abbrev AsksWithin (whole : Rule) : Plan → Prop :=
  Keeps (fun _ _ => True) (fun q => whole.Contains q.rule) fun _ => True

theorem asksWithin_done (result : Option Env) : AsksWithin whole (.done result) :=
  .done fun _ _ => trivial

mutual

/-- The plan of a part of a rule asks about what stands in the rule. -/
theorem asksWithin_plan (rule : Rule) (n : Node) (e : Env) (h : whole.Contains rule) :
    AsksWithin whole (plan rule n e) := by
  cases rule with
  | pattern p => exact asksWithin_done _
  | kind name => exact asksWithin_done _
  | regex r => exact asksWithin_done _
  | range extent => exact asksWithin_done _
  | util name => exact .ask h fun o _ => asksWithin_done o
  | nthChild f ofRule reverse =>
    cases ofRule with
    | none => exact asksWithin_done _
    | some ofRule =>
      rw [plan]
      cases n.parent? with
      | none => exact asksWithin_done none
      | some p => exact keeps_counting (fun _ _ => h.step .ofRule) fun _ => asksWithin_done _
  | relation r target stop field =>
    rw [plan]
    refine keeps_related (fun rule hstop m _ => ?_)
      (fun m _ => asksWithin_plan target m e (h.step .target)) (Node.ofTree_self n)
    subst hstop
    exact h.step .stop
  | all rules => exact asksWithin_planAll rules n e fun r hr => h.step (.all hr)
  | any rules => exact asksWithin_planAny rules n e fun r hr => h.step (.any hr)
  | not rule =>
    rw [plan]
    refine (asksWithin_plan rule n e (h.step .not)).bind fun o _ => ?_
    cases o with
    | none => exact asksWithin_done _
    | some _ => exact asksWithin_done _
termination_by structural rule

theorem asksWithin_planAll (rules : List Rule) (n : Node) (e : Env)
    (h : ∀ r ∈ rules, whole.Contains r) : AsksWithin whole (planAll rules n e) := by
  cases rules with
  | nil => exact asksWithin_done _
  | cons r rules =>
    obtain ⟨hr, hrules⟩ := List.forall_mem_cons.mp h
    rw [planAll]
    refine (asksWithin_plan r n e hr).bind fun o _ => ?_
    cases o with
    | none => exact asksWithin_done none
    | some e' => exact asksWithin_planAll rules n e' hrules
termination_by structural rules

theorem asksWithin_planAny (rules : List Rule) (n : Node) (e : Env)
    (h : ∀ r ∈ rules, whole.Contains r) : AsksWithin whole (planAny rules n e) := by
  cases rules with
  | nil => exact asksWithin_done none
  | cons r rules =>
    obtain ⟨hr, hrules⟩ := List.forall_mem_cons.mp h
    rw [planAny]
    exact (asksWithin_plan r n e hr).orElse (asksWithin_planAny rules n e hrules)
termination_by structural rules

end

/-- The evaluation of a rule asks about what stands in the rule. -/
theorem contains_of_asks {depth : Nat} (h : Asks (answers utils depth) (plan rule n e) q) :
    rule.Contains q.rule :=
  (asksWithin_plan rule n e .refl).asked_of_asks (fun _ _ _ => trivial) h

/-! ## References that resolve -/

/-- There is a utility rule for each reference in the rule, at any depth. -/
def Resolves (utils : NameMap Rule) (rule : Rule) : Prop :=
  ∀ name, rule.Contains (util name) → ∃ found, utils.find? name = some found

theorem Resolves.contains (h : rule.Resolves utils) (hpart : rule.Contains part) :
    part.Resolves utils := fun name hname => h name (hpart.trans hname)

/-- If more utility rules do not change what those say that are there, they change no answer. -/
theorem answers_append_of_references {extra : NameMap Rule} {depth : Nat}
    (h : ∀ name n e, (util name).Resolves utils →
      answers (utils ++ extra) depth (.reference name n e) =
        answers utils depth (.reference name n e))
    (hq : q.rule.Resolves utils) : answers (utils ++ extra) depth q = answers utils depth q := by
  induction q using question_induction utils with
  | reference name n e => exact h name n e hq
  | restart r n ih =>
    rw [answers_restart, answers_restart]
    exact run_congr fun q hasks => ih q ⟨depth, hasks⟩ (hq.contains (contains_of_asks hasks))

section

variable (hutils : ∀ {name found}, utils.find? name = some found → found.Resolves utils)

include hutils

/-- An evaluation that calls another one asks about what stands in its own rule, or in the utility
rule that it has looked up. -/
theorem resolves_of_calls (hq : q.rule.Resolves utils) (h : Calls utils q q') :
    q'.rule.Resolves utils := by
  obtain ⟨depth, h⟩ := h
  cases q with
  | reference name n e =>
    obtain ⟨found, hfound⟩ := hq name .refl
    rw [body_reference hfound] at h
    exact (hutils hfound).contains (contains_of_asks h)
  | restart r n => exact hq.contains (contains_of_asks h)

/-- Where all references resolve, those resolve that the evaluation of a rule comes to. -/
theorem resolves_of_reaches (hrule : rule.Resolves utils)
    (h : Reaches utils (plan rule n e) q) : q.rule.Resolves utils := by
  obtain ⟨first, ⟨depth, hfirst⟩, hpath⟩ := h
  induction hpath with
  | refl => exact hrule.contains (contains_of_asks hfirst)
  | tail _ hcalls ih => exact resolves_of_calls hutils ih hcalls

/-- Where all references resolve, more utility rules change no answer. -/
theorem answers_append (extra : NameMap Rule) (depth : Nat) (hq : q.rule.Resolves utils) :
    answers (utils ++ extra) depth q = answers utils depth q := by
  induction depth generalizing q with
  | zero =>
    refine answers_append_of_references (fun name n e hname => ?_) hq
    obtain ⟨found, hfound⟩ := hname name .refl
    rw [answers_zero, answers_zero, NameMap.contains, NameMap.contains, hfound,
      NameMap.find?_append_of_find? hfound]
  | succ depth ih =>
    refine answers_append_of_references (fun name n e hname => ?_) hq
    obtain ⟨found, hfound⟩ := hname name .refl
    rw [answers_reference, answers_reference, body_reference hfound,
      body_reference (NameMap.find?_append_of_find? hfound extra)]
    exact run_congr fun q hasks => ih ((hutils hfound).contains (contains_of_asks hasks))

/-- Where all references resolve, more utility rules change no evaluation. -/
theorem evaluate_append (extra : NameMap Rule) (hrule : rule.Resolves utils) (n : Node) (e : Env) :
    evaluate (utils ++ extra) rule n e = evaluate utils rule n e := by
  have hwithin : ∀ depth,
      evaluateWithin (utils ++ extra) depth rule n e = evaluateWithin utils depth rule n e := by
    intro depth
    rw [evaluateWithin_eq_run, evaluateWithin_eq_run]
    exact run_congr fun q hasks =>
      answers_append hutils extra depth (hrule.contains (contains_of_asks hasks))
  -- within as many references as both bounds allow
  rw [← evaluateWithin_eq_evaluate (Nat.le_max_left _ (referenceBound utils rule n.tree.size)),
    hwithin, evaluateWithin_eq_evaluate (Nat.le_max_right _ _)]

end

end Rule

/-! ## Documents -/

/-- The rules of a document. -/
def RuleDocument.rules (d : RuleDocument) : List RuleSpec :=
  d.rule :: (d.constraints.map (·.2) ++ d.utils.map (·.2))

namespace CompiledRule

variable {language : Language} {d : RuleDocument} {c : CompiledRule}

/-- The rules of a compiled document. -/
def rules (c : CompiledRule) : List Rule :=
  c.rule :: (c.constraints.map (·.2) ++ c.utils.map (·.2))

/-- Compiling a document compiles all its rules, and utility rules keep their names. -/
theorem mapM_rules (h : compile language d = .ok c) :
    d.rules.mapM (RuleSpec.compile language d.utils.names) = .ok c.rules ∧
      c.utils.names = d.utils.names := by
  obtain ⟨utils, hutils, h⟩ := Except.bind_eq_ok_iff.mp h
  obtain ⟨_, -, hutils⟩ := Except.bind_eq_ok_iff.mp hutils
  obtain ⟨rule, hrule, h⟩ := Except.bind_eq_ok_iff.mp h
  obtain ⟨constraints, hconstraints, h⟩ := Except.bind_eq_ok_iff.mp h
  obtain ⟨transforms, -, h⟩ := Except.bind_eq_ok_iff.mp h
  -- the check of the fix changes none of them
  have hparts : c.rule = rule ∧ c.constraints = constraints ∧ c.utils = utils := by
    cases hfix : d.fix with
    | none =>
      rw [hfix] at h
      cases h
      exact ⟨rfl, rfl, rfl⟩
    | some text =>
      rw [hfix] at h
      obtain ⟨_, -, h⟩ := Except.bind_eq_ok_iff.mp h
      cases h
      exact ⟨rfl, rfl, rfl⟩
  obtain ⟨rfl, rfl, rfl⟩ := hparts
  refine ⟨List.mapM_eq_ok_iff.mpr (.cons hrule (List.rel_append ?_ ?_)),
    NameMap.names_of_mapM (f := fun _ => RuleSpec.compile language d.utils.names) hutils⟩
  · exact List.mapM_eq_ok_iff.mp (NameMap.values_of_mapM hconstraints)
  · exact List.mapM_eq_ok_iff.mp (NameMap.values_of_mapM hutils)

theorem resolves_of_mem (h : compile language d = .ok c) {rule : Rule} (hrule : rule ∈ c.rules) :
    rule.Resolves c.utils := by
  obtain ⟨hrules, hnames⟩ := mapM_rules h
  obtain ⟨spec, -, hspec⟩ := List.exists_of_mem_mapM hrules hrule
  intro name hname
  have hmem := (Rule.compiled_of_compile hspec).mem_of_contains hname
  rw [← hnames] at hmem
  exact Option.isSome_iff_exists.mp (NameMap.contains_iff.mpr hmem)

theorem resolves_of_find? (h : compile language d = .ok c) {name : String} {found : Rule}
    (hfound : c.utils.find? name = some found) : found.Resolves c.utils := by
  have hmem : found ∈ c.utils.map (·.2) := List.mem_map.mpr ⟨_, NameMap.mem_of_find? hfound, rfl⟩
  exact resolves_of_mem h (List.mem_cons_of_mem _ (List.mem_append_right _ hmem))

/-- The rules of a compiled document refer to utility rules of the document only, at any depth. No
evaluation of them, wherever it begins and with whatever bindings, comes to a reference to a utility
rule that is not there, and more utility rules change no evaluation. Of the rules as written, only
targets of relations have boundaries, and only targets of relations that take one have fields. -/
theorem closed_of_compile (h : compile language d = .ok c) :
    (∀ rule ∈ c.rules, ∀ name, rule.Contains (.util name) →
      ∃ found, c.utils.find? name = some found) ∧
    (∀ rule ∈ c.rules, ∀ n e name m e',
      Rule.Reaches c.utils (rule.plan n e) (.reference name m e') →
      ∃ found, c.utils.find? name = some found) ∧
    (∀ rule ∈ c.rules, ∀ extra n e,
      rule.evaluate (c.utils ++ extra) n e = rule.evaluate c.utils n e) ∧
    ∀ spec ∈ d.rules, ∀ place part, spec.Occurs place part →
      (part.stopBy.isSome = true → place.isSome = true) ∧
      ∀ f, part.field = some f →
        ∃ r, place = some r ∧ r.takesField = true ∧ language.grammar.hasField f = true := by
  have hrules : ∀ rule ∈ c.rules, rule.Resolves c.utils := fun _ hrule => resolves_of_mem h hrule
  have hutils : ∀ {name found}, c.utils.find? name = some found → found.Resolves c.utils :=
    fun hfound => resolves_of_find? h hfound
  refine ⟨hrules, fun rule hrule n e name m e' hreaches => ?_,
    fun rule hrule extra => Rule.evaluate_append hutils extra (hrules rule hrule),
    fun spec hspec place part hpart => ?_⟩
  · exact Rule.resolves_of_reaches hutils (hrules rule hrule) hreaches name .refl
  · obtain ⟨rule, -, hrule⟩ := List.exists_of_mapM_of_mem (mapM_rules h).1 hspec
    exact (RuleSpec.compilesAs_of_occurs ⟨rule, hrule⟩ hpart).keys

/-! ## An example -/

/-- A word, below nodes that hold one. -/
def wordBelowHolders : RuleSpec := .mk [.util "word"] (some (.rule (.only (.util "holder")))) none

/-- The first of the words, unless it holds one itself. -/
def firstWord : RuleDocument :=
  { RuleDocument.ofRule (.mk
      [.nthChild (.full (.index 1) (some (.only (.util "word"))) false),
        .not (.only (.util "holder")), .util "word"] none none) with
    utils := [("holder", .only (.relation .has wordBelowHolders)), ("word", .only (.kind "word"))] }

/-- The compiled utility rules. -/
def firstWordUtils : NameMap Rule :=
  [("holder", .relation .has (.util "word") (.rule (.util "holder")) none), ("word", .kind "word")]

theorem compile_firstWord :
    ∃ f transforms, compile twoWords.language firstWord = .ok
      ⟨.all [.nthChild f (some (.util "word")) false, .not (.util "holder"), .util "word"], [],
        firstWordUtils, transforms, none⟩ := by
  have hok : (checkUtils firstWord.utils).isOk = true := by decide +kernel
  obtain ⟨_, hcheck⟩ := Except.exists_of_isOk hok
  rw [compile, compileUtils, hcheck]
  exact ⟨_, _, rfl⟩

/-- A stop rule refers to the utility rule that it stands in, and a rule to one that is compiled
after others; both are there. -/
theorem closed_firstWord :
    ∃ c, compile twoWords.language firstWord = .ok c ∧
      (∃ rule ∈ c.rules, rule.Contains (.util "holder")) ∧
      (∃ found, c.utils.find? "holder" = some found) ∧
      Rule.Reaches c.utils (c.rule.plan ⟨twoWords, 1⟩ .empty)
        (.reference "word" ⟨twoWords, 1⟩ .empty) ∧
      (∃ found, c.utils.find? "word" = some found) ∧
      (∀ extra n e, c.rule.evaluate (c.utils ++ extra) n e = c.rule.evaluate c.utils n e) ∧
      ∃ spec ∈ firstWord.rules, spec.Occurs (some .has) wordBelowHolders ∧
        ∀ place, spec.Occurs place wordBelowHolders → place.isSome = true := by
  obtain ⟨f, transforms, hc⟩ := compile_firstWord
  obtain ⟨hstands, hreached, hmore, hkeys⟩ := closed_of_compile hc
  have hholder : ∃ rule ∈ [Rule.all [.nthChild f (some (.util "word")) false,
      .not (.util "holder"), .util "word"],
      .relation .has (.util "word") (.rule (.util "holder")) none, .kind "word"],
      rule.Contains (.util "holder") :=
    ⟨_, List.mem_cons_of_mem _ List.mem_cons_self, .single .stop⟩
  have hword : Rule.Reaches firstWordUtils
      (Rule.plan (.all [.nthChild f (some (.util "word")) false, .not (.util "holder"),
        .util "word"]) ⟨twoWords, 1⟩ .empty) (.reference "word" ⟨twoWords, 1⟩ .empty) :=
    ⟨.restart (.util "word") ⟨twoWords, 1⟩, ⟨0, show Plan.Asks _ (.ask _ _) _ from .now⟩,
      .single ⟨0, show Plan.Asks _ (.ask _ _) _ from .now⟩⟩
  have hspec : RuleSpec.only (.relation .has wordBelowHolders) ∈ firstWord.rules :=
    List.mem_cons_of_mem _ List.mem_cons_self
  refine ⟨_, hc, hholder, ?_, hword, hreached _ List.mem_cons_self _ _ _ _ _ hword,
    hmore _ List.mem_cons_self, _, hspec, .target .whole List.mem_cons_self,
    fun place hplace => (hkeys _ hspec place _ hplace).1 rfl⟩
  obtain ⟨rule, hrule, hname⟩ := hholder
  exact hstands rule hrule "holder" hname

end CompiledRule

end StructuralSearch
