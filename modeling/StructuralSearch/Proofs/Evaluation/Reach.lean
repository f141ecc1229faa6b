import StructuralSearch.Proofs.Evaluation.Growth
import StructuralSearch.Proofs.Evaluation.RulePlan
import StructuralSearch.Proofs.Evaluation.Walks

/-!
# What an evaluation can come to

An evaluation stays in the tree, grows bindings by patterns of the rule, and restarts only with
rules that stand inside the rule.

* `Rule.patterns`, `Rule.restarts`: the patterns in a rule, and the rules inside it that are
  evaluated on their own.

Results:
1. `Rule.inside_of_mem_restarts`: restarts stand inside the rule, and `Rule.inside_induction` goes
   from them to the rule.
2. `Rule.length_le_weight`: patterns and restarts count in the size of a rule.
3. `Rule.plan_keeps`: what the plan of a rule asks, and what it comes to.
-/

namespace StructuralSearch

namespace Rule

/-! ## Patterns and restarts -/

mutual

/-- The patterns in a rule. -/
def patterns : Rule → List Pattern
  | pattern p => [p]
  | kind _ | regex _ | range _ | util _ => []
  | nthChild _ none _ => []
  | nthChild _ (some r) _ => r.patterns
  | relation _ target .neighbor _ => target.patterns
  | relation _ target .toEnd _ => target.patterns
  | relation _ target (.rule stop) _ => target.patterns ++ stop.patterns
  | all rules | any rules => listPatterns rules
  | not r => r.patterns

def listPatterns : List Rule → List Pattern
  | [] => []
  | r :: rs => r.patterns ++ listPatterns rs

end

mutual

/-- The rules inside a rule that are evaluated on their own: stop rules and those that positions
count by. -/
def restarts : Rule → List Rule
  | pattern _ | kind _ | regex _ | range _ | util _ => []
  | nthChild _ none _ => []
  | nthChild _ (some r) _ => r :: r.restarts
  | relation _ target .neighbor _ => target.restarts
  | relation _ target .toEnd _ => target.restarts
  | relation _ target (.rule stop) _ => target.restarts ++ stop :: stop.restarts
  | all rules | any rules => listRestarts rules
  | not r => r.restarts

def listRestarts : List Rule → List Rule
  | [] => []
  | r :: rs => r.restarts ++ listRestarts rs

end

/-- A rule that stands inside another: whatever is in it is in the other, and it is smaller. -/
structure Inside (r rule : Rule) : Prop where
  patterns : r.patterns ⊆ rule.patterns
  restarts : r.restarts ⊆ rule.restarts
  weight : r.weight < rule.weight

theorem Inside.of_le {r rule rule' : Rule} (h : Inside r rule)
    (hpatterns : rule.patterns ⊆ rule'.patterns) (hrestarts : rule.restarts ⊆ rule'.restarts)
    (hweight : rule.weight ≤ rule'.weight) : Inside r rule' :=
  ⟨List.Subset.trans h.patterns hpatterns, List.Subset.trans h.restarts hrestarts,
    Nat.lt_of_lt_of_le h.weight hweight⟩

/-- Proofs about restarts go from the rules that stand inside a rule to the rule. -/
theorem inside_induction {P : Rule → Prop} (step : ∀ r, (∀ r', Inside r' r → P r') → P r)
    (rule : Rule) : P rule := by
  induction hw : rule.weight using Nat.strongRecOn generalizing rule with
  | ind w ih => exact step rule fun r h => ih r.weight (hw ▸ h.weight) r rfl

mutual

/-- Restarts stand inside the rule. -/
theorem inside_of_mem_restarts (rule : Rule) : ∀ r ∈ rule.restarts, Inside r rule := by
  cases rule with
  | pattern p => simp [restarts]
  | kind name => simp [restarts]
  | regex r => simp [restarts]
  | range extent => simp [restarts]
  | util name => simp [restarts]
  | nthChild f ofRule reverse =>
    cases ofRule with
    | none => simp [restarts]
    | some ofRule =>
      have hle : ofRule.weight < (nthChild f (some ofRule) reverse).weight := by
        simp only [weight]
        omega
      rw [restarts]
      refine List.forall_mem_cons.mpr ⟨⟨fun _ h => h, List.subset_cons_self .., hle⟩, ?_⟩
      exact fun r hr => (inside_of_mem_restarts ofRule r hr).of_le (fun _ h => h)
        (List.subset_cons_self ..) (Nat.le_of_lt hle)
  | relation r target stop field =>
    cases stop with
    | neighbor =>
      exact fun r hr => (inside_of_mem_restarts target r hr).of_le (fun _ h => h) (fun _ h => h)
        (by simp only [weight]; omega)
    | toEnd =>
      exact fun r hr => (inside_of_mem_restarts target r hr).of_le (fun _ h => h) (fun _ h => h)
        (by simp only [weight]; omega)
    | rule stop =>
      rw [restarts]
      have hstop : Inside stop (relation r target (.rule stop) field) := by
        refine ⟨?_, ?_, ?_⟩
        · rw [patterns]
          exact List.subset_append_right _ _
        · rw [restarts]
          exact List.Subset.trans (List.subset_cons_self ..) (List.subset_append_right _ _)
        · simp only [weight]
          omega
      refine List.forall_mem_append.mpr ⟨fun r' hr => ?_, List.forall_mem_cons.mpr
        ⟨hstop, fun r' hr => ?_⟩⟩
      · refine (inside_of_mem_restarts target r' hr).of_le ?_ ?_ (by simp only [weight]; omega)
        · rw [patterns]
          exact List.subset_append_left _ _
        · rw [restarts]
          exact List.subset_append_left _ _
      · exact (inside_of_mem_restarts stop r' hr).of_le hstop.patterns hstop.restarts
          (Nat.le_of_lt hstop.weight)
  | all rules =>
    intro r hr
    obtain ⟨hp, hr, hw⟩ := inside_of_mem_listRestarts rules r hr
    exact ⟨hp, hr, by simp only [weight]; omega⟩
  | any rules =>
    intro r hr
    obtain ⟨hp, hr, hw⟩ := inside_of_mem_listRestarts rules r hr
    exact ⟨hp, hr, by simp only [weight]; omega⟩
  | not rule =>
    exact fun r hr => (inside_of_mem_restarts rule r hr).of_le (fun _ h => h) (fun _ h => h)
      (by simp only [weight]; omega)
termination_by structural rule

theorem inside_of_mem_listRestarts (rules : List Rule) : ∀ r ∈ listRestarts rules,
    r.patterns ⊆ listPatterns rules ∧ r.restarts ⊆ listRestarts rules ∧
      r.weight < listWeight rules := by
  cases rules with
  | nil => simp [listRestarts]
  | cons rule rules =>
    rw [listRestarts, listPatterns, listWeight]
    refine List.forall_mem_append.mpr ⟨fun r hr => ?_, fun r hr => ?_⟩
    · obtain ⟨hp, hr, hw⟩ := inside_of_mem_restarts rule r hr
      exact ⟨List.Subset.trans hp (List.subset_append_left _ _),
        List.Subset.trans hr (List.subset_append_left _ _), by omega⟩
    · obtain ⟨hp, hr, hw⟩ := inside_of_mem_listRestarts rules r hr
      exact ⟨List.Subset.trans hp (List.subset_append_right _ _),
        List.Subset.trans hr (List.subset_append_right _ _), by omega⟩
termination_by structural rules

end

mutual

/-- The patterns and the restarts of a rule count in its size. -/
theorem length_le_weight (rule : Rule) :
    rule.patterns.length ≤ rule.weight ∧ rule.restarts.length < rule.weight := by
  cases rule with
  | pattern p =>
    simp only [patterns, restarts, weight, List.length_cons, List.length_nil]
    omega
  | kind name => simp [patterns, restarts, weight]
  | regex r => simp [patterns, restarts, weight]
  | range extent => simp [patterns, restarts, weight]
  | util name => simp [patterns, restarts, weight]
  | nthChild f ofRule reverse =>
    cases ofRule with
    | none => simp [patterns, restarts, weight]
    | some ofRule =>
      have := length_le_weight ofRule
      simp only [patterns, restarts, weight, List.length_cons]
      omega
  | relation r target stop field =>
    have := length_le_weight target
    cases stop with
    | neighbor | toEnd =>
      simp only [patterns, restarts, weight]
      omega
    | rule stop =>
      have := length_le_weight stop
      simp only [patterns, restarts, weight, List.length_append, List.length_cons]
      omega
  | all rules | any rules =>
    have := length_le_listWeight rules
    simp only [patterns, restarts, weight]
    omega
  | not rule =>
    have := length_le_weight rule
    simp only [patterns, restarts, weight]
    omega
termination_by structural rule

theorem length_le_listWeight (rules : List Rule) :
    (listPatterns rules).length ≤ listWeight rules ∧
      (listRestarts rules).length + rules.length ≤ listWeight rules := by
  cases rules with
  | nil => simp [listPatterns, listRestarts, listWeight]
  | cons rule rules =>
    have := length_le_weight rule
    have := length_le_listWeight rules
    simp only [listPatterns, listRestarts, listWeight, List.length_append, List.length_cons]
    omega
termination_by structural rules

end

end Rule

/-! ## What the plan of a rule keeps -/

namespace Plan

open Rule

variable {reply : Question → Env → Prop} {asked : Question → Prop} {bound : Env → Prop}
  {origin n : Node}

theorem Keeps.orElse {p q : Plan} (h : Keeps reply asked bound p) (k : Keeps reply asked bound q) :
    Keeps reply asked bound (p.orElse q) := by
  refine h.bind fun o ho => ?_
  cases o with
  | none => exact k
  | some e => exact .done ho

theorem keeps_nothing : Keeps reply asked bound (done none) := .done fun _ he => by cases he

theorem keeps_first {α : Type} {plan : α → Plan} {l : List α}
    (h : ∀ a ∈ l, Keeps reply asked bound (plan a)) : Keeps reply asked bound (first plan l) := by
  induction l with
  | nil => exact keeps_nothing
  | cons a l ih =>
    obtain ⟨ha, hl⟩ := List.forall_mem_cons.mp h
    exact ha.orElse (ih hl)

theorem keeps_counting {rule : Rule} {next : List Node → Plan} {ns : List Node}
    (h : ∀ m ∈ ns, asked (.restart rule m)) (hnext : ∀ l, Keeps reply asked bound (next l)) :
    Keeps reply asked bound (counting rule next ns) := by
  induction ns generalizing next with
  | nil => exact hnext []
  | cons m ns ih =>
    obtain ⟨hm, hns⟩ := List.forall_mem_cons.mp h
    refine .ask hm fun o _ => ?_
    cases o with
    | none => exact ih hns hnext
    | some e => exact ih hns fun l => hnext (m :: l)

theorem keeps_candidate {target : Node → Plan} {c : Node × Bool}
    (h : Keeps reply asked bound (target c.1)) :
    Keeps reply asked bound (candidate target c) := by
  rw [candidate]
  split
  · exact h
  · exact keeps_nothing

theorem keeps_searchWhile {stop : Rule} {target : Node → Plan} {cs : List (Node × Bool)}
    (hstop : ∀ c ∈ cs, asked (.restart stop c.1))
    (h : ∀ c ∈ cs, Keeps reply asked bound (target c.1)) :
    Keeps reply asked bound (searchWhile stop target cs) := by
  induction cs with
  | nil => exact keeps_nothing
  | cons c cs ih =>
    obtain ⟨hc, hcs⟩ := List.forall_mem_cons.mp h
    obtain ⟨hstopc, hstopcs⟩ := List.forall_mem_cons.mp hstop
    refine .ask hstopc fun o _ => ?_
    cases o with
    | none => exact keeps_nothing
    | some e => exact (keeps_candidate hc).orElse (ih hstopcs hcs)

theorem keeps_searchBelow {stop : Rule} {target : Node → Plan}
    (hstop : ∀ m, Node.OfTree origin m → asked (.restart stop m))
    (h : ∀ m, Node.OfTree origin m → Keeps reply asked bound (target m))
    (hn : Node.OfTree origin n) : Keeps reply asked bound (searchBelow stop target n) := by
  induction n using searchBelow.induct with
  | case1 n ih =>
    rw [searchBelow]
    refine .ask (hstop n hn) fun o _ => ?_
    cases o with
    | none => exact keeps_nothing
    | some e =>
      exact (h n hn).orElse (keeps_first fun c _ => ih c (Node.ofTree_children hn c.2))

/-- A relation asks what its target asks at nodes of the tree, and its stop rule. -/
theorem keeps_related {r : Relation} {stop : StopBy Rule} {field : Option String}
    {target : Node → Plan}
    (hstop : ∀ rule, stop = .rule rule → ∀ m, Node.OfTree origin m → asked (.restart rule m))
    (h : ∀ m, Node.OfTree origin m → Keeps reply asked bound (target m))
    (hn : Node.OfTree origin n) : Keeps reply asked bound (related r stop field n target) := by
  have hstart : ∀ m ∈ n.children.filter (throughField field), Node.OfTree origin m :=
    fun m hm => Node.ofTree_children hn (List.mem_of_mem_filter hm)
  cases r with
  | has =>
    cases stop with
    | neighbor => exact keeps_first fun m hm => h m (hstart m hm)
    | toEnd =>
      refine keeps_first fun m hm => h m ?_
      obtain ⟨c, hc, hm⟩ := List.mem_flatMap.mp hm
      exact Node.ofTree_preorder (hstart c hc) hm
    | rule stop =>
      exact keeps_first fun m hm => keeps_searchBelow (hstop stop rfl) h (hstart m hm)
  | inside | precedes | follows =>
    cases stop with
    | neighbor =>
      simp only [related]
      cases hc : neighbor? _ field n with
      | none => exact keeps_nothing
      | some c => exact keeps_candidate (h c.1 (ofTree_neighbor? hn hc))
    | toEnd =>
      refine keeps_first fun m hm => h m ?_
      obtain ⟨c, hc, rfl⟩ := List.mem_map.mp hm
      exact ofTree_candidates hn (List.mem_of_mem_filter hc)
    | rule stop =>
      exact keeps_searchWhile (fun c hc => hstop stop rfl c.1 (ofTree_candidates hn hc))
        fun c hc => h c.1 (ofTree_candidates hn hc)

end Plan

namespace Rule

/-- What may be answered: utility rules only add what some patterns bind. -/
def Answered (ps : List Pattern) : Question → Env → Prop
  | .reference _ _ e, e' => Env.Grows ps e e'
  | .restart _ _, _ => True

/-- What may be asked: utility rules at nodes of the tree and with bindings that have grown, and
restarts of some rules at nodes of the tree. -/
def Asked (origin : Node) (ps : List Pattern) (rs : List Rule) (e : Env) : Question → Prop
  | .reference _ m e' => Node.OfTree origin m ∧ Env.Grows ps e e'
  | .restart r m => r ∈ rs ∧ Node.OfTree origin m

theorem Asked.of_grows {origin : Node} {ps : List Pattern} {rs : List Rule} {e e' : Env}
    (h : Env.Grows ps e e') (q : Question) (hq : Asked origin ps rs e' q) :
    Asked origin ps rs e q := by
  cases q with
  | reference name m e'' => exact ⟨hq.1, h.trans hq.2⟩
  | restart r m => exact hq

section

variable {origin n : Node} {ps : List Pattern} {rs : List Rule} {e : Env}

theorem keeps_planOfBool (b : Bool) :
    Plan.Keeps (Answered ps) (Asked origin ps rs e) (Env.Grows ps e) (planOfBool e b) := by
  refine .done fun e' he => ?_
  cases b with
  | false => cases he
  | true =>
    cases he
    exact .refl

mutual

/-- The plan of a rule asks its restarts and utility rules at nodes of the tree, with bindings that
have grown by its patterns, and what it comes to has grown by its patterns. -/
theorem plan_keeps (rule : Rule) (n : Node) (e : Env) (hn : Node.OfTree origin n)
    (hps : rule.patterns ⊆ ps) (hrs : rule.restarts ⊆ rs) :
    Plan.Keeps (Answered ps) (Asked origin ps rs e) (Env.Grows ps e) (plan rule n e) := by
  cases rule with
  | pattern p =>
    rw [plan]
    exact .done fun e' he => .single ⟨p, hps (by simp [patterns]), n, he⟩
  | kind name => exact keeps_planOfBool _
  | regex r => exact keeps_planOfBool _
  | range extent => exact keeps_planOfBool _
  | util name =>
    rw [plan]
    exact .ask ⟨hn, .refl⟩ fun o ho => .done ho
  | nthChild f ofRule reverse =>
    cases ofRule with
    | none => exact keeps_planOfBool _
    | some ofRule =>
      rw [plan]
      cases hp : n.parent? with
      | none => exact Plan.keeps_nothing
      | some p =>
        have hparent := Node.ofTree_parent? hn hp
        refine Plan.keeps_counting (fun m hm => ⟨hrs (by simp [restarts]), ?_⟩)
          fun counted => keeps_planOfBool _
        exact Node.ofTree_children hparent (List.mem_of_mem_filter hm)
  | relation r target stop field =>
    rw [plan]
    have htarget : target.patterns ⊆ ps ∧ target.restarts ⊆ rs := by
      cases stop with
      | neighbor | toEnd => exact ⟨hps, hrs⟩
      | rule stop =>
        rw [patterns] at hps
        rw [restarts] at hrs
        exact ⟨(List.append_subset.mp hps).1, (List.append_subset.mp hrs).1⟩
    refine Plan.keeps_related (fun stop hstop m hm => ⟨?_, hm⟩)
      (fun m hm => plan_keeps target m e hm htarget.1 htarget.2) hn
    subst hstop
    exact hrs (by simp [restarts])
  | all rules => exact planAll_keeps rules n e hn hps hrs
  | any rules => exact planAny_keeps rules n e hn hps hrs
  | not rule =>
    rw [plan]
    refine (plan_keeps rule n e hn hps hrs).bind fun o _ => ?_
    cases o with
    | none =>
      refine .done fun e' he => ?_
      cases he
      exact .refl
    | some _ => exact Plan.keeps_nothing
termination_by structural rule

theorem planAll_keeps (rules : List Rule) (n : Node) (e : Env) (hn : Node.OfTree origin n)
    (hps : listPatterns rules ⊆ ps) (hrs : listRestarts rules ⊆ rs) :
    Plan.Keeps (Answered ps) (Asked origin ps rs e) (Env.Grows ps e) (planAll rules n e) := by
  cases rules with
  | nil =>
    refine .done fun e' he => ?_
    cases he
    exact .refl
  | cons r rules =>
    rw [listPatterns] at hps
    rw [listRestarts] at hrs
    rw [planAll]
    refine (plan_keeps r n e hn (List.append_subset.mp hps).1 (List.append_subset.mp hrs).1).bind
      fun o ho => ?_
    cases o with
    | none => exact Plan.keeps_nothing
    | some e' =>
      -- the rules after it start from bindings that have grown already
      have hgrows : Env.Grows ps e e' := ho e' rfl
      exact (planAll_keeps rules n e' hn (List.append_subset.mp hps).2
        (List.append_subset.mp hrs).2).mono (Asked.of_grows hgrows) fun _ he => hgrows.trans he
termination_by structural rules

theorem planAny_keeps (rules : List Rule) (n : Node) (e : Env) (hn : Node.OfTree origin n)
    (hps : listPatterns rules ⊆ ps) (hrs : listRestarts rules ⊆ rs) :
    Plan.Keeps (Answered ps) (Asked origin ps rs e) (Env.Grows ps e) (planAny rules n e) := by
  cases rules with
  | nil => exact Plan.keeps_nothing
  | cons r rules =>
    rw [listPatterns] at hps
    rw [listRestarts] at hrs
    rw [planAny]
    exact (plan_keeps r n e hn (List.append_subset.mp hps).1 (List.append_subset.mp hrs).1).orElse
      (planAny_keeps rules n e hn (List.append_subset.mp hps).2 (List.append_subset.mp hrs).2)
termination_by structural rules

end

end

end Rule

end StructuralSearch
