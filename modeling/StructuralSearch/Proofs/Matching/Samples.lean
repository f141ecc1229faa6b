import StructuralSearch.Proofs.Evaluation.Contribution
import StructuralSearch.Proofs.Matching.Variables
import StructuralSearch.Proofs.NameMap
import StructuralSearch.Proofs.Tree.Flattening

/-!
# What a pattern asks of a node

Every pattern node that is looked at and stands for no variable asks for a node of its kind, and a
leaf also for its text. Nothing else is asked for: with one leaf for each variable that stands for a
node, and without the pattern nodes that may go without a partner, the pattern itself becomes a tree
that it matches.

* `Shape.sample`: that tree.
* `Env.Plain`: what is bound when it is matched.

Results:
1. `Matching.exists_alike_of_node`: what a pattern node asks for is found below the candidate.
2. `Shape.joined_sample`: the sample can be listed as a tree.
3. `Shape.all_sample`: its nodes are leaves for variables and nodes like those that are looked at.
4. `Matching.exists_node_of_sample`: the pattern node matches its sample.
-/

namespace StructuralSearch

variable {x : Char} {level : Strictness}

namespace Matching

/-! ## What is asked for -/

/-- A pattern node that needs a partner is compared with one of the candidates. -/
theorem exists_partner_of_chooses {g : Shape} {gs : List Shape} {cs : List Node} {e e' : Env}
    (h : Chooses x level gs cs e e') (hg : g ∈ gs) (hr : g.isRun x = false)
    (hl : g.isLeft x level = false) : ∃ c ∈ cs, ∃ e₁ e₂, node x level g c e₁ = some e₂ := by
  induction h with
  | done _ => exact absurd hg List.not_mem_nil
  | run hm _ _ ih =>
    rcases List.mem_cons.mp hg with rfl | hg
    · rw [Shape.isRun_of_metavariable? hm] at hr
      cases hr
    · obtain ⟨c, hc, found⟩ := ih hg
      exact ⟨c, List.mem_append_right _ hc, found⟩
  | leave hr' hs _ ih =>
    rcases List.mem_cons.mp hg with rfl | hg
    · rw [Shape.isLeft_of_skipsGoal hr' hs] at hl
      cases hl
    · exact ih hg
  | @pair g' gs passed c rest e e₁ e' _ _ _ hn _ ih =>
    rcases List.mem_cons.mp hg with rfl | hg
    · exact ⟨c, by simp, e, e₁, hn⟩
    · obtain ⟨d, hd, found⟩ := ih hg
      exact ⟨d, List.mem_append_right _ (List.mem_cons_of_mem c hd), found⟩

/-- A pattern node that is looked at and stands for no variable asks for a node of its kind, and if
it is a leaf whose text counts, for a node of its text. -/
theorem exists_alike_of_node {g d : Shape} {c : Node} {e e' : Env}
    (h : node x level g c e = some e') (hd : Shape.Compared x level g d)
    (hm : d.metavariable? x = none) :
    ∃ n, Node.OfTree c n ∧ d.kind = n.kind ∧
      (d.children = [] → level.comparesText = true → d.text = n.text) := by
  induction hd generalizing c e e' with
  | self g =>
    rcases node_eq_some_iff.mp h with ⟨_, hv, -⟩ | ⟨_, hv, -⟩ | ⟨-, hkind, -, htext, -⟩ |
      ⟨-, hkind, hne, -⟩
    · cases hm.symm.trans hv
    · cases hm.symm.trans hv
    · exact ⟨c, Node.ofTree_self c, hkind, fun _ => htext⟩
    · exact ⟨c, Node.ofTree_self c, hkind, fun hnil => absurd hnil hne⟩
  | @child g k d hnone hk hl hd ih =>
    rcases node_eq_some_iff.mp h with ⟨_, hv, -⟩ | ⟨_, hv, -⟩ | ⟨-, -, hnil, -⟩ |
      ⟨-, -, -, hs⟩
    · cases hnone.symm.trans hv
    · cases hnone.symm.trans hv
    · rw [hnil] at hk
      exact absurd hk List.not_mem_nil
    · have hr : k.isRun x = false := by
        by_contra hrun
        obtain ⟨name, hv⟩ := Shape.metavariable?_of_isRun (Bool.not_eq_false _ ▸ hrun)
        -- below a variable nothing is looked at
        obtain rfl := Shape.eq_of_compared hv hd
        cases hm.symm.trans hv
      obtain ⟨m, hmc, e₁, e₂, hn⟩ := exists_partner_of_chooses (chooses_of_sequence hs) hk hr hl
      obtain ⟨n, hof, hn⟩ := ih hn hm
      exact ⟨n, (Node.ofTree_children (Node.ofTree_self c) hmc).trans hof, hn⟩

end Matching

/-! ## Samples -/

namespace Shape

/-- The text of a sample leaf. -/
def sampleText : Text := ['x']

/-- What stands for a variable in a sample. -/
def sampleLeaf : Shape := .node "x" true sampleText []

/-- Whether a pattern node among siblings needs a partner. -/
def needsPartner (x : Char) (level : Strictness) (g : Shape) : Bool :=
  !g.isRun x && !g.isLeft x level

mutual

/-- A tree that a pattern node matches. -/
def sample (x : Char) (level : Strictness) : Shape → Shape
  | node kind named text goals =>
    if (Placeholder.decode? x text).isSome then sampleLeaf
    else if goals.isEmpty then
      node kind named (if level.comparesText then text else sampleText) []
    else
      node kind named ((sampleAmong x level goals).flatMap Shape.text) (sampleAmong x level goals)

/-- Nodes that siblings in a pattern match. -/
def sampleAmong (x : Char) (level : Strictness) : List Shape → List Shape
  | [] => []
  | g :: gs =>
    if g.needsPartner x level then g.sample x level :: sampleAmong x level gs
    else sampleAmong x level gs

end

variable {g : Shape} {gs : List Shape}

theorem sample_eq (g : Shape) :
    g.sample x level =
      if (g.metavariable? x).isSome then sampleLeaf
      else if g.children.isEmpty then
        .node g.kind g.named (if level.comparesText then g.text else sampleText) []
      else
        .node g.kind g.named ((sampleAmong x level g.children).flatMap Shape.text)
          (sampleAmong x level g.children) := by
  obtain ⟨kind, named, text, goals⟩ := g
  rw [sample]
  rfl

theorem sample_of_placeholder {v : String × Arity} (h : g.metavariable? x = some v) :
    g.sample x level = sampleLeaf := by
  rw [sample_eq, h, Option.isSome_some, if_pos rfl]

theorem sample_of_leaf (h : g.metavariable? x = none) (hc : g.children = []) :
    g.sample x level =
      .node g.kind g.named (if level.comparesText then g.text else sampleText) [] := by
  rw [sample_eq, h, hc, Option.isSome_none, if_neg Bool.false_ne_true, List.isEmpty_nil, if_pos rfl]

theorem sample_of_branch (h : g.metavariable? x = none) (hc : g.children ≠ []) :
    g.sample x level = .node g.kind g.named
      ((sampleAmong x level g.children).flatMap Shape.text) (sampleAmong x level g.children) := by
  rw [sample_eq, h, Option.isSome_none, if_neg Bool.false_ne_true, if_neg (by simpa using hc)]

theorem mem_sampleAmong {s : Shape} (h : s ∈ sampleAmong x level gs) :
    ∃ g ∈ gs, g.isLeft x level = false ∧ s = g.sample x level := by
  induction gs with
  | nil => exact absurd h List.not_mem_nil
  | cons g gs ih =>
    rw [sampleAmong] at h
    split at h
    · next hneeds =>
      rcases List.mem_cons.mp h with rfl | h
      · have hl : g.isLeft x level = false := by simpa using (Bool.and_eq_true_iff.mp hneeds).2
        exact ⟨g, List.mem_cons_self, hl, rfl⟩
      · obtain ⟨k, hk, hs⟩ := ih h
        exact ⟨k, List.mem_cons_of_mem g hk, hs⟩
    · obtain ⟨k, hk, hs⟩ := ih h
      exact ⟨k, List.mem_cons_of_mem g hk, hs⟩

/-- What holds for leaves that stand for variables, and for the samples of the other pattern nodes
that are looked at, holds throughout a sample. -/
theorem all_sample {P : Shape → Prop} (hleaf : P sampleLeaf)
    (h : ∀ d, Compared x level g d → d.metavariable? x = none → P (d.sample x level)) :
    (g.sample x level).All P := by
  induction g using Shape.induct with
  | node kind named text goals ih =>
    set g : Shape := .node kind named text goals
    cases hm : g.metavariable? x with
    | some v =>
      rw [sample_of_placeholder hm]
      exact .intro hleaf fun c hc => absurd hc List.not_mem_nil
    | none =>
      refine .intro (h g (.self g) hm) fun s hs => ?_
      by_cases hc : g.children = []
      · rw [sample_of_leaf hm hc] at hs
        exact absurd hs List.not_mem_nil
      · rw [sample_of_branch hm hc] at hs
        obtain ⟨k, hk, hl, rfl⟩ := mem_sampleAmong hs
        exact ih k hk fun d hd => h d (.child hm hk hl hd)

/-- A sample can be listed as a tree. -/
theorem joined_sample (g : Shape) : (g.sample x level).All Joined := by
  refine all_sample (Or.inl rfl) fun d _ hm => ?_
  by_cases hc : d.children = []
  · rw [sample_of_leaf hm hc]
    exact Or.inl rfl
  · rw [sample_of_branch hm hc]
    exact Or.inr rfl

end Shape

/-! ## Samples match -/

namespace Env

variable {e : Env}

/-- Names for a node have captured leaves that stand for variables, names for a run nothing. -/
structure Plain (e : Env) : Prop where
  single : ∀ b ∈ e.single, b.2.shape = Shape.sampleLeaf
  multiple : ∀ b ∈ e.multiple, b.2 = []

theorem plain_empty : Env.empty.Plain :=
  ⟨fun _ hb => absurd hb List.not_mem_nil, fun _ hb => absurd hb List.not_mem_nil⟩

theorem Plain.exists_bindSingle (he : e.Plain) (name : String) {n : Node}
    (hn : n.shape = Shape.sampleLeaf) : ∃ e', e.bindSingle name n = some e' ∧ e'.Plain := by
  by_cases ha : name = Metavariable.anonymous
  · exact ⟨e, bindSingle_eq_some_iff.mpr (Or.inl ⟨ha, rfl⟩), he⟩
  · cases hf : e.single.find? name with
    | none =>
      refine ⟨_, bindSingle_eq_some_iff.mpr (Or.inr ⟨ha, Or.inr ⟨hf, rfl⟩⟩), ?_⟩
      refine { he with single := fun b hb => ?_ }
      rcases NameMap.mem_insert hb with rfl | hb
      · exact hn
      · exact he.single b hb
    | some bound =>
      have hbound := he.single _ (NameMap.mem_of_find? hf)
      have hlook : bound.look = n.look := by
        rw [Node.look, Node.look, ← Node.kind_shape, ← Node.text_shape, hbound, ← hn,
          Node.kind_shape, Node.text_shape]
      exact ⟨e, bindSingle_eq_some_iff.mpr (Or.inr ⟨ha, Or.inl ⟨bound, hf, hlook, rfl⟩⟩), he⟩

theorem Plain.exists_bindMultiple (he : e.Plain) (name : String) :
    ∃ e', e.bindMultiple name [] = some e' ∧ e'.Plain := by
  by_cases ha : name = Metavariable.anonymous
  · exact ⟨e, bindMultiple_eq_some_iff.mpr (Or.inl ⟨ha, rfl⟩), he⟩
  · cases hf : e.multiple.find? name with
    | none =>
      refine ⟨_, bindMultiple_eq_some_iff.mpr (Or.inr ⟨ha, Or.inr ⟨hf, rfl⟩⟩), ?_⟩
      refine { he with multiple := fun b hb => ?_ }
      rcases NameMap.mem_insert hb with rfl | hb
      · rfl
      · exact he.multiple b hb
    | some bound =>
      have hbound : bound = [] := he.multiple _ (NameMap.mem_of_find? hf)
      exact ⟨e, bindMultiple_eq_some_iff.mpr
        (Or.inr ⟨ha, Or.inl ⟨bound, hf, by rw [hbound], rfl⟩⟩), he⟩

end Env

namespace Matching

variable {g : Shape} {gs : List Shape}

/-- The search tries the empty run first. -/
theorem sequence_of_empty_run {name : String} {cs : List Node} {e e₁ e' : Env}
    (hm : g.metavariable? x = some (name, .multiple)) (hb : e.bindMultiple name [] = some e₁)
    (hs : sequence x level gs cs e₁ = some e') : sequence x level (g :: gs) cs e = some e' := by
  obtain ⟨rest, hsplits⟩ : ∃ rest, splits cs = ([], cs) :: rest := by
    cases cs <;> exact ⟨_, rfl⟩
  rw [sequence_cons_run hm, hsplits, List.findSome?_cons, hb, Option.bind_some, hs]

/-- The search tries the first candidate first. -/
theorem sequence_of_first {c : Node} {cs : List Node} {e e₁ e' : Env} (hr : g.isRun x = false)
    (hl : level.skipsGoal g.kind g.named = false) (hn : node x level g c e = some e₁)
    (hs : sequence x level gs cs e₁ = some e') :
    sequence x level (g :: gs) (c :: cs) e = some e' := by
  rw [sequence_cons_pair hr hl, choices, List.findSome?_cons, hn, Option.bind_some, hs]

theorem exists_sequence_of_sample {cs : List Node} {e : Env}
    (ih : ∀ g ∈ gs, ∀ c e, g.isRun x = false → c.shape = g.sample x level → e.Plain →
      ∃ e', node x level g c e = some e' ∧ e'.Plain)
    (hcs : cs.map Node.shape = Shape.sampleAmong x level gs) (he : e.Plain) :
    ∃ e', sequence x level gs cs e = some e' ∧ e'.Plain := by
  induction gs generalizing cs e with
  | nil =>
    obtain rfl := List.map_eq_nil_iff.mp hcs
    exact ⟨e, by rw [sequence]; rfl, he⟩
  | cons g gs ihs =>
    have ihs := fun cs e => @ihs cs e fun g hg => ih g (List.mem_cons_of_mem _ hg)
    cases hr : g.isRun x with
    | true =>
      rw [Shape.sampleAmong, Shape.needsPartner, hr, if_neg (by simp)] at hcs
      obtain ⟨name, hm⟩ := Shape.metavariable?_of_isRun hr
      obtain ⟨e₁, hb, he₁⟩ := he.exists_bindMultiple name
      obtain ⟨e', hs, he'⟩ := ihs cs e₁ hcs he₁
      exact ⟨e', sequence_of_empty_run hm hb hs, he'⟩
    | false =>
      have hleft : g.isLeft x level = level.skipsGoal g.kind g.named := by simp [Shape.isLeft, hr]
      cases hl : level.skipsGoal g.kind g.named with
      | true =>
        rw [Shape.sampleAmong, Shape.needsPartner, hleft, hl, if_neg (by simp)] at hcs
        obtain ⟨e', hs, he'⟩ := ihs cs e hcs he
        exact ⟨e', by rw [sequence_cons_leave hr hl, hs], he'⟩
      | false =>
        rw [Shape.sampleAmong, Shape.needsPartner, hleft, hl, hr, if_pos (by simp)] at hcs
        obtain ⟨c, rest, rfl, hc, hrest⟩ := List.map_eq_cons_iff.mp hcs
        obtain ⟨e₁, hn, he₁⟩ := ih g List.mem_cons_self c e hr hc he
        obtain ⟨e', hs, he'⟩ := ihs rest e₁ hrest he₁
        exact ⟨e', sequence_of_first hr hl hn hs, he'⟩

/-- A pattern node that is no run matches its sample. -/
theorem exists_node_of_sample {c : Node} {e : Env} (hr : g.isRun x = false)
    (hc : c.shape = g.sample x level) (he : e.Plain) :
    ∃ e', node x level g c e = some e' ∧ e'.Plain := by
  induction g using Shape.induct generalizing c e with
  | node kind named text goals ih =>
    set g : Shape := .node kind named text goals
    cases hm : g.metavariable? x with
    | some v =>
      obtain ⟨name, _ | _⟩ := v
      · rw [Shape.sample_of_placeholder hm] at hc
        have hnamed : c.isNamed = true := by rw [← Node.isNamed_shape, hc]; rfl
        obtain ⟨e', hb, he'⟩ := he.exists_bindSingle name hc
        exact ⟨e', node_eq_some_iff.mpr (Or.inl ⟨name, hm, hnamed, hb⟩), he'⟩
      · rw [Shape.isRun_of_metavariable? hm] at hr
        cases hr
    | none =>
      by_cases hnil : g.children = []
      · rw [Shape.sample_of_leaf hm hnil] at hc
        have hkind : g.kind = c.kind := by rw [← Node.kind_shape, hc]; rfl
        have htext : level.comparesText = true → g.text = c.text := by
          intro hcompares
          rw [← Node.text_shape, hc, hcompares, if_pos rfl]
          rfl
        exact ⟨e, node_eq_some_iff.mpr (Or.inr (Or.inr (Or.inl ⟨hm, hkind, hnil, htext, rfl⟩))), he⟩
      · rw [Shape.sample_of_branch hm hnil] at hc
        have hkind : g.kind = c.kind := by rw [← Node.kind_shape, hc]; rfl
        have hcs : c.children.map Node.shape = Shape.sampleAmong x level g.children := by
          rw [← Node.children_shape, hc]
          rfl
        obtain ⟨e', hs, he'⟩ := exists_sequence_of_sample (fun g hg c e hr => ih g hg hr) hcs he
        exact ⟨e', node_eq_some_iff.mpr (Or.inr (Or.inr (Or.inr ⟨hm, hkind, hnil, hs⟩))), he'⟩

end Matching

end StructuralSearch
