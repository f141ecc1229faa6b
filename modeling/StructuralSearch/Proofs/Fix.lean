import StructuralSearch.Proofs.Evaluation.Bindings
import StructuralSearch.Rule.Compiled

/-!
# Names in fixes

A fix may refer to the names of transforms and to metavariables that stand in the patterns of the
rule. These are looked for in the rule and in the utility rules that it refers to, stop rules
excepted. The rules beneath `not` and those that positions count by are looked at as well, although
what they bind is thrown away: a fix that refers to a name which stands only there is accepted, and
no match ever binds it.

* `Rule.Discards`: a rule whose bindings are thrown away by another.
* `Rule.Mentions`: the patterns that the check looks at.
* `CompiledRule.Mentions`, `CompiledRule.CanBind`: the names that the check accepts, and those that
  a match can bind.

Results:
1. `Rule.mem_mentioned_iff`: the names that are found are those of the patterns that are looked at.
2. `Rule.binds_of_evaluate`: an evaluation binds what contributing patterns capture.
3. `CompiledRule.compile_fix_iff`: which fixes are accepted, and when these are the ones whose names
   can be bound.
4. `discarded_name_is_accepted`: a fix whose name is never bound.
-/

namespace StructuralSearch

namespace Rule

variable {utils : NameMap Rule} {rule r part : Rule} {name : String}

/-! ## The rules that are looked at -/

/-- The second rule is evaluated for the first, and what it binds is thrown away. -/
inductive Discards : Rule → Rule → Prop
  | ofRule {f : Formula} {r : Rule} {reverse : Bool} : Discards (nthChild f (some r) reverse) r
  | not {r : Rule} : Discards (not r) r

/-- The second rule stands in the first, outside of stop rules, or in a utility rule that is reached
in this way. -/
def Leads (utils : NameMap Rule) : Rule → Rule → Prop :=
  Relation.ReflTransGen fun r part => Passes utils r part ∨ Discards r part

/-- The pattern stands in the rule, outside of stop rules, or in a utility rule that is reached in
this way. -/
def Mentions (utils : NameMap Rule) (rule : Rule) (p : Pattern) : Prop :=
  Leads utils rule (pattern p)

/-- A pattern that contributes is looked at. -/
theorem mentions_of_contributes {p : Pattern} (h : rule.Contributes utils p) :
    rule.Mentions utils p := Relation.ReflTransGen.mono (fun _ _ => Or.inl) _ _ h

theorem listMetavariables_eq (rules : List Rule) :
    listMetavariables rules = rules.flatMap metavariables := by
  induction rules with
  | nil => rfl
  | cons r rules ih => rw [listMetavariables, ih, List.flatMap_cons]

theorem listReferences_eq (rules : List Rule) :
    listReferences rules = rules.flatMap references := by
  induction rules with
  | nil => rfl
  | cons r rules ih => rw [listReferences, ih, List.flatMap_cons]

/-- The names in a member of a combination are names in the combination. -/
theorem subset_of_mem {rules : List Rule} (hr : r ∈ rules) :
    r.metavariables ⊆ listMetavariables rules ∧ r.references ⊆ listReferences rules := by
  rw [listMetavariables_eq, listReferences_eq]
  exact ⟨fun _ h => List.mem_flatMap.mpr ⟨r, hr, h⟩, fun _ h => List.mem_flatMap.mpr ⟨r, hr, h⟩⟩

/-- What a rule leads to in one step has no other names than the rule, unless the rule is a
reference. -/
theorem subset_of_step (h : Passes utils r part ∨ Discards r part) :
    (part.metavariables ⊆ r.metavariables ∧ part.references ⊆ r.references) ∨
      ∃ name, r = util name ∧ utils.find? name = some part := by
  rcases h with (_ | hr | hr | hfound) | (_ | _)
  · exact Or.inl ⟨fun _ h => h, fun _ h => h⟩
  · exact Or.inl (subset_of_mem hr)
  · exact Or.inl (subset_of_mem hr)
  · exact Or.inr ⟨_, rfl, hfound⟩
  · exact Or.inl ⟨fun _ h => h, fun _ h => h⟩
  · exact Or.inl ⟨fun _ h => h, fun _ h => h⟩

/-- The rule leads to the patterns whose metavariables it has, and to its references. -/
structure NamesLead (utils : NameMap Rule) (rule : Rule) : Prop where
  metavariables : ∀ name ∈ rule.metavariables, ∃ p, rule.Mentions utils p ∧
    name ∈ p.metavariables.map Metavariable.name
  references : ∀ name ∈ rule.references, Leads utils rule (util name)

/-- A rule whose names are those of its parts leads to them through its parts. -/
theorem namesLead_of_parts {parts : List Rule} (hparts : ∀ part ∈ parts, part.NamesLead utils)
    (hstep : ∀ part ∈ parts, Passes utils rule part ∨ Discards rule part)
    (hmetavariables : rule.metavariables = parts.flatMap metavariables)
    (hreferences : rule.references = parts.flatMap references) : rule.NamesLead utils where
  metavariables name hname := by
    rw [hmetavariables] at hname
    obtain ⟨part, hpart, hname⟩ := List.mem_flatMap.mp hname
    obtain ⟨p, hp, hname⟩ := (hparts part hpart).metavariables name hname
    exact ⟨p, .head (hstep part hpart) hp, hname⟩
  references name hname := by
    rw [hreferences] at hname
    obtain ⟨part, hpart, hname⟩ := List.mem_flatMap.mp hname
    exact .head (hstep part hpart) ((hparts part hpart).references name hname)

theorem namesLead_of_part (hpart : part.NamesLead utils)
    (hstep : Passes utils rule part ∨ Discards rule part)
    (hmetavariables : rule.metavariables = part.metavariables)
    (hreferences : rule.references = part.references) : rule.NamesLead utils :=
  namesLead_of_parts (List.forall_mem_singleton.mpr hpart) (List.forall_mem_singleton.mpr hstep)
    (by rw [hmetavariables, List.flatMap_singleton])
    (by rw [hreferences, List.flatMap_singleton])

mutual

theorem namesLead (utils : NameMap Rule) (rule : Rule) : rule.NamesLead utils := by
  cases rule with
  | pattern p => exact ⟨fun name h => ⟨p, .refl, h⟩, by simp [references]⟩
  | kind name => exact ⟨by simp [metavariables], by simp [references]⟩
  | regex r => exact ⟨by simp [metavariables], by simp [references]⟩
  | range extent => exact ⟨by simp [metavariables], by simp [references]⟩
  | util name =>
    refine ⟨by simp [metavariables], fun n hn => ?_⟩
    obtain rfl := List.mem_singleton.mp hn
    exact .refl
  | nthChild f ofRule reverse =>
    cases ofRule with
    | none => exact ⟨by simp [metavariables], by simp [references]⟩
    | some ofRule => exact namesLead_of_part (namesLead utils ofRule) (Or.inr .ofRule) rfl rfl
  | relation r target stop field =>
    exact namesLead_of_part (namesLead utils target) (Or.inl .target) rfl rfl
  | all rules =>
    exact namesLead_of_parts (namesLead_list utils rules) (fun _ hmem => Or.inl (.all hmem))
      (listMetavariables_eq rules) (listReferences_eq rules)
  | any rules =>
    exact namesLead_of_parts (namesLead_list utils rules) (fun _ hmem => Or.inl (.any hmem))
      (listMetavariables_eq rules) (listReferences_eq rules)
  | not rule => exact namesLead_of_part (namesLead utils rule) (Or.inr .not) rfl rfl
termination_by structural rule

theorem namesLead_list (utils : NameMap Rule) (rules : List Rule) :
    ∀ r ∈ rules, r.NamesLead utils := by
  cases rules with
  | nil => exact fun r hr => absurd hr List.not_mem_nil
  | cons rule rules =>
    exact List.forall_mem_cons.mpr ⟨namesLead utils rule, namesLead_list utils rules⟩
termination_by structural rules

end

/-! ## Following references -/

variable {left : NameMap Rule} {names rest : List String} {found : Rule}

theorem reached_cons_of_none (h : left.find? name = none) :
    reached left (name :: rest) = reached left rest := by
  rw [reached]
  split
  · rfl
  · next hsome => simp [h] at hsome

theorem reached_cons_of_some (h : left.find? name = some found) :
    reached left (name :: rest) =
      found :: reached (left.erase name) (found.references ++ rest) := by
  rw [reached]
  split
  · next hnone => simp [h] at hnone
  · next hsome =>
    obtain rfl := Option.some.inj (h.symm.trans hsome)
    rfl

theorem find?_of_find?_erase {n : String} (h : (left.erase name).find? n = some r) :
    left.find? n = some r := by
  have hne : n ≠ name := by
    rintro rfl
    simp [NameMap.find?_erase_self] at h
  rwa [NameMap.find?_erase_of_ne hne] at h

/-- What is reached by following references is led to by one of them. -/
theorem leads_of_mem_reached
    (hleft : ∀ n r, left.find? n = some r → utils.find? n = some r)
    (h : r ∈ reached left names) : ∃ n ∈ names, Leads utils (util n) r := by
  induction left, names using reached.induct with
  | case1 left => simp [reached] at h
  | case2 left name rest hnone ih =>
    rw [reached_cons_of_none hnone] at h
    obtain ⟨n, hn, hleads⟩ := ih hleft h
    exact ⟨n, List.mem_cons_of_mem name hn, hleads⟩
  | case3 left name rest found hfound ih =>
    have hstep : Leads utils (util name) found := .single (Or.inl (.util (hleft name found hfound)))
    rw [reached_cons_of_some hfound] at h
    rcases List.mem_cons.mp h with rfl | h
    · exact ⟨name, List.mem_cons_self, hstep⟩
    · obtain ⟨n, hn, hleads⟩ := ih (fun n r h => hleft n r (find?_of_find?_erase h)) h
      rcases List.mem_append.mp hn with hn | hn
      · -- a reference in the utility rule that was found
        exact ⟨name, List.mem_cons_self,
          (hstep.trans ((namesLead utils found).references n hn)).trans hleads⟩
      · exact ⟨n, List.mem_cons_of_mem name hn, hleads⟩

/-- Following references misses none: neither a name that it starts from, nor a reference in a rule
that it has reached. -/
theorem reached_closed (names : List String) {n : String} (h : left.find? n = some r) :
    (n ∈ names → r ∈ reached left names) ∧
      ∀ part ∈ reached left names, n ∈ part.references → r ∈ reached left names := by
  induction left, names using reached.induct with
  | case1 left => simp [reached]
  | case2 left name rest hnone ih =>
    rw [reached_cons_of_none hnone]
    obtain ⟨hstart, hpart⟩ := ih h
    refine ⟨fun hn => ?_, hpart⟩
    rcases List.mem_cons.mp hn with rfl | hn
    · simp [hnone] at h
    · exact hstart hn
  | case3 left name rest found hfound ih =>
    rw [reached_cons_of_some hfound]
    by_cases hne : n = name
    · -- the name that is looked up now
      subst hne
      obtain rfl := Option.some.inj (h.symm.trans hfound)
      exact ⟨fun _ => List.mem_cons_self, fun _ _ _ => List.mem_cons_self⟩
    · rw [← NameMap.find?_erase_of_ne hne] at h
      obtain ⟨hstart, hpart⟩ := ih h
      refine ⟨fun hn => ?_, List.forall_mem_cons.mpr ⟨fun hn => ?_, fun part hmem hn => ?_⟩⟩
      · exact List.mem_cons_of_mem found
          (hstart (List.mem_append_right _ (List.mem_of_ne_of_mem hne hn)))
      · exact List.mem_cons_of_mem found (hstart (List.mem_append_left _ hn))
      · exact List.mem_cons_of_mem found (hpart part hmem hn)

/-- All that a rule leads to has no other names than the rule, or than one that is reached. -/
theorem subset_of_leads (h : Leads utils rule part) :
    (part.metavariables ⊆ rule.metavariables ∧ part.references ⊆ rule.references) ∨
      ∃ r ∈ reached utils rule.references,
        part.metavariables ⊆ r.metavariables ∧ part.references ⊆ r.references := by
  induction h with
  | refl => exact Or.inl ⟨fun _ h => h, fun _ h => h⟩
  | tail _ hstep ih =>
    rcases subset_of_step hstep with ⟨hm, hr⟩ | ⟨n, rfl, hutil⟩
    · refine ih.imp (fun h => ⟨List.Subset.trans hm h.1, List.Subset.trans hr h.2⟩) ?_
      rintro ⟨r, hmem, h⟩
      exact ⟨r, hmem, List.Subset.trans hm h.1, List.Subset.trans hr h.2⟩
    · obtain ⟨hstart, hpart⟩ := reached_closed rule.references hutil
      refine Or.inr ⟨_, ?_, fun _ h => h, fun _ h => h⟩
      rcases ih with ⟨-, hn⟩ | ⟨r, hmem, -, hn⟩
      · exact hstart (hn List.mem_cons_self)
      · exact hpart r hmem (hn List.mem_cons_self)

/-- The names that are found are those of the metavariables in the patterns that are looked at. -/
theorem mem_mentioned_iff : name ∈ rule.mentioned utils ↔
    ∃ p, rule.Mentions utils p ∧ name ∈ p.metavariables.map Metavariable.name := by
  rw [mentioned, List.mem_append, List.mem_flatMap]
  constructor
  · rintro (h | ⟨r, hr, h⟩)
    · exact (namesLead utils rule).metavariables name h
    · obtain ⟨n, hn, hleads⟩ := leads_of_mem_reached (fun _ _ h => h) hr
      obtain ⟨p, hp, h⟩ := (namesLead utils r).metavariables name h
      exact ⟨p, (((namesLead utils rule).references n hn).trans hleads).trans hp, h⟩
  · rintro ⟨p, hp, h⟩
    rcases subset_of_leads hp with ⟨hm, -⟩ | ⟨r, hr, hm, -⟩
    · exact Or.inl (hm h)
    · exact Or.inr ⟨r, hr, hm h⟩

/-! ## What evaluations bind -/

/-- An evaluation that accepts binds what contributing patterns capture, and nothing else. -/
theorem binds_of_evaluate {n : Node} {e e' : Env} (h : rule.evaluate utils n e = .accepted e')
    {v : String × Arity} (hv : e'.Binds v) :
    e.Binds v ∨ ∃ p, rule.Contributes utils p ∧ v ∈ p.captures := by
  have hgains := gains_of_evaluate h
  clear h
  induction hgains with
  | refl => exact Or.inl hv
  | tail _ hstep ih =>
    obtain ⟨p, hp, m, -, hm⟩ := hstep
    rcases (Pattern.binds_of_matchNode hm v).mp hv with hv | hv
    · exact ih hv
    · exact Or.inr ⟨p, hp, hv⟩

end Rule

/-! ## Fixes -/

namespace Template

/-- The template refers to the name, and the name is not the anonymous one. -/
def References (t : Template) (name : String) : Prop :=
  name ≠ Metavariable.anonymous ∧ ∃ arity raw, .reference name arity raw ∈ t.parts

theorem mem_referencedNames_iff {t : Template} {name : String} :
    name ∈ t.referencedNames ↔ t.References name := by
  rw [referencedNames, NameMap.mem_orderedNames_iff, List.mem_filterMap]
  constructor
  · rintro ⟨part, hpart, hname⟩
    cases part with
    | text _ => simp at hname
    | reference n arity raw =>
      obtain ⟨hne, rfl⟩ : n ≠ Metavariable.anonymous ∧ n = name := by simpa using hname
      exact ⟨hne, arity, raw, hpart⟩
  · rintro ⟨hne, arity, raw, hpart⟩
    exact ⟨_, hpart, by simp [hne]⟩

end Template

namespace CompiledRule

variable {language : Language} {d : RuleDocument} {c : CompiledRule} {fix name : String}

/-- The name is that of a transform or of a metavariable in a pattern that is looked at. -/
def Mentions (c : CompiledRule) (name : String) : Prop :=
  name ∈ c.transforms.names ∨
    ∃ p, c.rule.Mentions c.utils p ∧ name ∈ p.metavariables.map Metavariable.name

/-- The name is that of a transform or of a metavariable in a pattern whose bindings are passed
on. -/
def CanBind (c : CompiledRule) (name : String) : Prop :=
  name ∈ c.transforms.names ∨
    ∃ p, c.rule.Contributes c.utils p ∧ name ∈ p.metavariables.map Metavariable.name

theorem mentions_of_canBind (h : c.CanBind name) : c.Mentions name :=
  h.imp_right fun ⟨p, hp, hname⟩ => ⟨p, Rule.mentions_of_contributes hp, hname⟩

/-- The refusal of a name that nothing binds. -/
def neverBound (name : String) : RuleError :=
  .invalidFix s!"metavariable '{name}' is never bound by the rule or a transform"

/-- The check of a fix passes if all names that it refers to are mentioned, and else refuses one
that is not. -/
theorem checkFix_cases (c : CompiledRule) (template : Template) :
    (checkFix c.rule c.utils c.transforms template = .ok () ∧
      ∀ name, template.References name → c.Mentions name) ∨
    ∃ name, template.References name ∧ ¬ c.Mentions name ∧
      checkFix c.rule c.utils c.transforms template = .error (neverBound name) := by
  have hmentions : ∀ name, (c.rule.mentioned c.utils ++ c.transforms.names).contains name = true ↔
      c.Mentions name := by
    intro name
    rw [List.contains_iff_mem, List.mem_append, Rule.mem_mentioned_iff, or_comm]
    rfl
  rw [checkFix]
  cases hfind : template.referencedNames.find? fun name =>
      !(c.rule.mentioned c.utils ++ c.transforms.names).contains name with
  | none =>
    refine Or.inl ⟨rfl, fun name hname => (hmentions name).mp ?_⟩
    have hnot := List.find?_eq_none.mp hfind name (Template.mem_referencedNames_iff.mpr hname)
    rwa [Bool.not_eq_true, Bool.not_eq_false'] at hnot
  | some name =>
    refine Or.inr ⟨name, Template.mem_referencedNames_iff.mp (List.mem_of_find?_eq_some hfind),
      fun hname => ?_, rfl⟩
    have hnot := List.find?_some hfind
    rw [(hmentions name).mpr hname] at hnot
    cases hnot

/-- Compiling a document with a fix compiles the rest and checks the fix. -/
theorem compile_eq_checkFix (hfix : d.fix = some fix)
    (h : compile language { d with fix := none } = .ok c) :
    compile language d =
      (checkFix c.rule c.utils c.transforms (Template.parse language fix.toList)).map fun _ =>
        { c with fix := some (Template.parse language fix.toList) } := by
  rw [compile] at h ⊢
  simp only [bind, Except.bind] at h ⊢
  split at h
  · cases h
  split at h
  · cases h
  split at h
  · cases h
  split at h
  · cases h
  cases h
  rw [hfix]
  rfl

/-- Of a document whose other parts compile, the fix is accepted exactly if each name that it refers
to is that of a transform or stands in a pattern that the check looks at, and else the refusal names
one that does not. An evaluation binds what contributing patterns capture. So the names that a match
can bind are exactly those of the accepted fixes, except where all names of a fix are mentioned and
one of them only where bindings are thrown away. -/
theorem compile_fix_iff (hfix : d.fix = some fix)
    (h : compile language { d with fix := none } = .ok c) :
    ((∃ c', compile language d = .ok c') ↔
      ∀ name, (Template.parse language fix.toList).References name → c.Mentions name) ∧
    (∀ error, compile language d = .error error →
      ∃ name, (Template.parse language fix.toList).References name ∧ ¬ c.Mentions name ∧
        error = .invalidFix s!"metavariable '{name}' is never bound by the rule or a transform") ∧
    (((∃ c', compile language d = .ok c') ↔
        ∀ name, (Template.parse language fix.toList).References name → c.CanBind name) ↔
      ¬ ((∀ name, (Template.parse language fix.toList).References name → c.Mentions name) ∧
        ∃ name, (Template.parse language fix.toList).References name ∧ ¬ c.CanBind name)) ∧
    ∀ n e e', c.rule.evaluate c.utils n e = .accepted e' → ∀ v, e'.Binds v →
      e.Binds v ∨ ∃ p, c.rule.Contributes c.utils p ∧ v ∈ p.captures := by
  have hcompile := compile_eq_checkFix hfix h
  generalize Template.parse language fix.toList = template at hcompile ⊢
  have haccepted : (∃ c', compile language d = .ok c') ↔
      ∀ name, template.References name → c.Mentions name := by
    rcases checkFix_cases c template with ⟨hok, hall⟩ | ⟨name, hname, hnot, herror⟩
    · rw [hok] at hcompile
      exact iff_of_true ⟨_, hcompile⟩ hall
    · rw [herror] at hcompile
      refine iff_of_false ?_ fun hall => hnot (hall name hname)
      rintro ⟨c', hc'⟩
      cases hc'.symm.trans hcompile
  refine ⟨haccepted, fun error herror => ?_, ?_, fun n e e' heval v hv =>
    Rule.binds_of_evaluate heval hv⟩
  · rcases checkFix_cases c template with ⟨hok, -⟩ | ⟨name, hname, hnot, hrefused⟩
    · rw [hok] at hcompile
      cases herror.symm.trans hcompile
    · rw [hrefused] at hcompile
      cases herror.symm.trans hcompile
      exact ⟨name, hname, hnot, rfl⟩
  · rw [haccepted]
    constructor
    · rintro hexact ⟨hmentioned, name, hname, hnot⟩
      exact hnot (hexact.mp hmentioned name hname)
    · intro hnone
      refine ⟨fun hmentioned name hname => ?_, fun hall name hname =>
        mentions_of_canBind (hall name hname)⟩
      by_contra hnot
      exact hnone ⟨hmentioned, name, hname, hnot⟩

end CompiledRule

/-! ## Two fixes -/

/-- Any node, replaced by itself. -/
def anyWordKept : RuleDocument :=
  { RuleDocument.ofRule (.only (.pattern (.source "$A"))) with fix := some "$A" }

/-- What is a word and is not any node, replaced by that node. -/
def negatedWordKept : RuleDocument :=
  { RuleDocument.ofRule (.mk [.kind "word", .not (.only (.pattern (.source "$A")))] none none) with
    fix := some "$A" }

theorem references_word_iff {name : String} :
    (Template.parse wholeWords "$A".toList).References name ↔ name = "A" := by
  have hnames : (Template.parse wholeWords "$A".toList).referencedNames = ["A"] := by
    decide +kernel
  rw [← Template.mem_referencedNames_iff, hnames, List.mem_singleton]

theorem compile_anyWord :
    ∃ p, RuleSpec.compile wholeWords [] (.only (.pattern (.source "$A"))) = .ok (.pattern p) ∧
      p.metavariables = [⟨"A", .single, 0⟩] := by
  have hcompiled : ((Pattern.compile wholeWords "$A".toList).toOption.any fun p =>
      decide (p.metavariables = [⟨"A", .single, 0⟩])) = true := by decide +kernel
  obtain ⟨p, hp, hvars⟩ := Pattern.exists_compile hcompiled
  refine ⟨p, ?_, of_decide_eq_true hvars⟩
  simp only [RuleSpec.only, RuleSpec.compile, RuleSpec.compileClauses, Clause.compile,
    PatternSpec.compile, hp]
  rfl

theorem compile_ofRule {language : Language} {spec : RuleSpec} {rule : Rule}
    (h : spec.compile language [] = .ok rule) :
    CompiledRule.compile language (.ofRule spec) = .ok ⟨rule, [], [], [], none⟩ := by
  have hutils : compileUtils language NameMap.empty = .ok [] := rfl
  have htransforms : Transforms.compile language NameMap.empty = .ok [] := rfl
  have hrule : spec.compile language (NameMap.names (RuleDocument.ofRule spec).utils) = .ok rule :=
    h
  rw [CompiledRule.compile]
  simp only [RuleDocument.ofRule] at hrule ⊢
  rw [hutils, htransforms, hrule]
  rfl

/-- A fix that refers to a metavariable of the pattern is accepted. -/
theorem compile_anyWordKept :
    ∃ c, CompiledRule.compile wholeWords { anyWordKept with fix := none } = .ok c ∧
      c.CanBind "A" ∧ ∃ c', CompiledRule.compile wholeWords anyWordKept = .ok c' := by
  obtain ⟨p, hrule, hvars⟩ := compile_anyWord
  have h := compile_ofRule hrule
  have hbind : CompiledRule.CanBind ⟨.pattern p, [], [], [], none⟩ "A" :=
    Or.inr ⟨p, .refl, by simp [hvars]⟩
  refine ⟨_, h, hbind, (CompiledRule.compile_fix_iff (d := anyWordKept) rfl h).1.mpr ?_⟩
  intro name hname
  rw [references_word_iff.mp hname]
  exact CompiledRule.mentions_of_canBind hbind

/-- Beneath `not`, no pattern contributes. -/
theorem not_contributes_negated (p q : Pattern) :
    ¬ Rule.Contributes [] (.all [.kind "word", .not (.pattern p)]) q := by
  have hcarried : ∀ r, Rule.Carries [] (.all [.kind "word", .not (.pattern p)]) r →
      r = .all [.kind "word", .not (.pattern p)] ∨ r = .kind "word" ∨ r = .not (.pattern p) := by
    intro r hr
    induction hr with
    | refl => exact Or.inl rfl
    | tail _ hstep ih =>
      rcases ih with rfl | rfl | rfl
      · cases hstep with
        | all hmem => exact Or.inr (by simpa using hmem)
      · cases hstep
      · cases hstep
  intro hq
  rcases hcarried _ hq with h | h | h <;> cases h

/-- The only metavariable stands beneath `not`. A fix that refers to it is accepted, and no
evaluation binds it. -/
theorem discarded_name_is_accepted :
    ∃ c, CompiledRule.compile wholeWords { negatedWordKept with fix := none } = .ok c ∧
      (∃ c', CompiledRule.compile wholeWords negatedWordKept = .ok c') ∧
      (Template.parse wholeWords "$A".toList).References "A" ∧ ¬ c.CanBind "A" ∧
      ∀ n e, c.rule.evaluate c.utils n .empty = .accepted e → ∀ arity, ¬ e.Binds ("A", arity) := by
  obtain ⟨p, hpattern, hvars⟩ := compile_anyWord
  have hrule : RuleSpec.compile wholeWords []
      (.mk [.kind "word", .not (.only (.pattern (.source "$A")))] none none) =
      .ok (.all [.kind "word", .not (.pattern p)]) := by
    simp only [RuleSpec.compile, RuleSpec.compileClauses, Clause.compile, hpattern]
    rfl
  have h := compile_ofRule hrule
  have hmentions : CompiledRule.Mentions
      ⟨.all [.kind "word", .not (.pattern p)], [], [], [], none⟩ "A" := by
    refine Or.inr ⟨p, .tail (.single (Or.inl (.all ?_))) (Or.inr .not), by simp [hvars]⟩
    exact List.mem_cons_of_mem _ List.mem_cons_self
  have hcompile := CompiledRule.compile_eq_checkFix (d := negatedWordKept) rfl h
  refine ⟨_, h, ?_, references_word_iff.mpr rfl, ?_, fun n e heval arity hv => ?_⟩
  · rcases CompiledRule.checkFix_cases
      ⟨.all [.kind "word", .not (.pattern p)], [], [], [], none⟩
      (Template.parse wholeWords "$A".toList) with ⟨hok, -⟩ | ⟨name, hname, hnot, -⟩
    · rw [hok] at hcompile
      exact ⟨_, hcompile⟩
    · rw [references_word_iff.mp hname] at hnot
      exact absurd hmentions hnot
  · rintro (hname | ⟨q, hq, -⟩)
    · exact absurd hname List.not_mem_nil
    · exact not_contributes_negated p q hq
  · rcases Rule.binds_of_evaluate heval hv with hv | ⟨q, hq, -⟩
    · exact Env.not_binds_empty _ hv
    · exact not_contributes_negated p q hq

end StructuralSearch
