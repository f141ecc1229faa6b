import Mathlib.Data.List.Forall2
import StructuralSearch.Proofs.Matching.Completeness
import StructuralSearch.Proofs.Tree.Flattening

/-!
# Literal patterns

A pattern in which no node stands for a variable binds nothing, so the search for alignments loses
nothing when it keeps the first one. At the strictest level every node needs a partner, and what is
left is equality of trees. At each other level the pattern nodes that are left out stand for
candidates that can be passed over, so what is a copy of the pattern still matches it.

* `Shape.Literal`: no node stands for a variable.
* `Shape.Equals`: trees that are equal as far as the strictest level looks at them.
* `Shape.Copy`: trees that are equal but for the texts of inner nodes.

Results:
1. `Matching.env_eq_of_literal`: a literal pattern binds nothing.
2. `Matching.node_empty_iff_of_literal`: whatever it fits is found.
3. `fits_cst_iff_equals`: at the strictest level it fits what it equals.
4. `fits_of_copy`: it fits its copies at every level.
5. `Pattern.bindings?_of_literal`: what literal patterns match.
-/

namespace StructuralSearch

variable {x : Char} {level : Strictness} {s : Assignment} {g t : Shape} {c : Node} {e e' : Env}

namespace Shape

/-- No node of the pattern stands for a variable. -/
def Literal (x : Char) (g : Shape) : Prop := g.All fun d => d.metavariable? x = none

/-- The trees have the same kinds and the same shape, down to the leaves of the first, whose texts
are those of the second. -/
inductive Equals : Shape → Shape → Prop
  | leaf {g t : Shape} : g.kind = t.kind → g.children = [] → g.text = t.text → Equals g t
  | branch {g t : Shape} :
      g.kind = t.kind → g.children ≠ [] → List.Forall₂ Equals g.children t.children → Equals g t

/-- The trees have the same shape with the same kinds, the same nodes that are named, and the same
texts of leaves. -/
inductive Copy : Shape → Shape → Prop
  | leaf {g t : Shape} :
      g.kind = t.kind → g.named = t.named → g.children = [] → t.children = [] → g.text = t.text →
      Copy g t
  | branch {g t : Shape} :
      g.kind = t.kind → g.named = t.named → g.children ≠ [] →
      List.Forall₂ Copy g.children t.children → Copy g t

/-- A tree is a copy of itself. -/
theorem copy_refl (g : Shape) : g.Copy g := by
  induction g using Shape.induct with
  | node kind named text goals ih =>
    cases goals with
    | nil => exact .leaf rfl rfl rfl rfl rfl
    | cons g gs => exact .branch rfl rfl (List.cons_ne_nil g gs) (List.forall₂_same.mpr ih)

theorem Literal.metavariable?_eq_none (h : g.Literal x) : g.metavariable? x = none := h.head

theorem Literal.children (h : g.Literal x) : ∀ k ∈ g.children, k.Literal x := fun _ hk => h.child hk

theorem Literal.isRun_eq_false (h : g.Literal x) : g.isRun x = false := by
  rw [isRun, h.metavariable?_eq_none]

/-! ## Nothing is bound -/

theorem capturesAmong_eq_nil {gs : List Shape} (h : ∀ g ∈ gs, g.captures x level = []) :
    capturesAmong x level gs = [] := by
  induction gs with
  | nil => rfl
  | cons g gs ih =>
    obtain ⟨hg, hgs⟩ := List.forall_mem_cons.mp h
    rw [capturesAmong, hg, ite_self, ih hgs, List.nil_append]

theorem captures_of_literal (h : g.Literal x) : g.captures x level = [] := by
  induction g using Shape.induct with
  | node kind named text goals ih =>
    rw [captures_of_branch h.metavariable?_eq_none]
    exact capturesAmong_eq_nil fun k hk => ih k hk (h.children k hk)

theorem bindsFirstAmong_of_literal {before : List (String × Arity)} {gs : List Shape}
    (ih : ∀ g ∈ gs, ∀ before, g.bindsFirst x level before = true)
    (h : ∀ g ∈ gs, g.Literal x) : bindsFirstAmong x level before gs = true := by
  induction gs generalizing before with
  | nil => rfl
  | cons g gs ihs =>
    obtain ⟨ihg, ihgs⟩ := List.forall_mem_cons.mp ih
    obtain ⟨hg, hgs⟩ := List.forall_mem_cons.mp h
    rw [bindsFirstAmong]
    split
    · exact ihs ihgs hgs
    · simp [ihg, captures_of_literal hg, ihs ihgs hgs]

theorem bindsFirst_of_literal {before : List (String × Arity)} (h : g.Literal x) :
    g.bindsFirst x level before = true := by
  induction g using Shape.induct generalizing before with
  | node kind named text goals ih =>
    rw [bindsFirst, Bool.or_eq_true]
    exact Or.inr (bindsFirstAmong_of_literal (fun k hk _ => ih k hk (h.children k hk)) h.children)

end Shape

namespace Matching

theorem env_eq_of_chooses {gs : List Shape} {cs : List Node}
    (ih : ∀ g ∈ gs, ∀ c e e', node x level g c e = some e' → e' = e)
    (hlit : ∀ g ∈ gs, g.Literal x) (h : Chooses x level gs cs e e') : e' = e := by
  induction h with
  | done _ => rfl
  | run hm _ _ _ =>
    cases hm.symm.trans (hlit _ List.mem_cons_self).metavariable?_eq_none
  | leave _ _ _ ihs =>
    exact ihs (fun g hg => ih g (List.mem_cons_of_mem _ hg))
      fun g hg => hlit g (List.mem_cons_of_mem _ hg)
  | pair _ _ _ hn _ ihs =>
    obtain rfl := ih _ List.mem_cons_self _ _ _ hn
    exact ihs (fun g hg => ih g (List.mem_cons_of_mem _ hg))
      fun g hg => hlit g (List.mem_cons_of_mem _ hg)

/-- A literal pattern binds nothing. -/
theorem env_eq_of_literal (hlit : g.Literal x) (h : node x level g c e = some e') : e' = e := by
  induction g using Shape.induct generalizing c e e' with
  | node kind named text goals ih =>
    have hnone := hlit.metavariable?_eq_none
    rcases node_eq_some_iff.mp h with ⟨_, hm, -⟩ | ⟨_, hm, -⟩ | ⟨-, -, -, -, rfl⟩ | ⟨-, -, -, hs⟩
    · cases hm.symm.trans hnone
    · cases hm.symm.trans hnone
    · rfl
    · exact env_eq_of_chooses (fun k hk c e e' => ih k hk (hlit.children k hk)) hlit.children
        (chooses_of_sequence hs)

/-- Whatever a literal pattern fits is found. -/
theorem node_empty_iff_of_literal (hlit : g.Literal x) :
    node x level g c .empty = some .empty ↔ ∃ s, Fits x level s g c := by
  constructor
  · exact fun h => ⟨_, fits_of_node h (Env.within_refl _)⟩
  · rintro ⟨s, h⟩
    obtain ⟨e, he⟩ := exists_node_of_fits (settled_of_bindsFirst (Shape.bindsFirst_of_literal hlit))
      (fun v hv => absurd hv List.not_mem_nil) (fun v hv => absurd hv (Env.not_binds_empty v)) h
    rwa [env_eq_of_literal hlit he] at he

end Matching

/-! ## Partners in order -/

/-- Candidates that are paired with the pattern nodes in order are an alignment that the search
considers, if the partners of pattern nodes that are left out can be passed over. -/
theorem fitsAmong_of_forall₂ {R : Shape → Node → Prop} {gs : List Shape} {passed cs : List Node}
    (hlit : ∀ g ∈ gs, g.Literal x) (hfits : ∀ g ∈ gs, ∀ c, R g c → Fits x level s g c)
    (hskips : ∀ g ∈ gs, ∀ c, R g c → level.skipsGoal g.kind g.named = true →
      Matching.skipsNode level c = true)
    (hpassed : ∀ p ∈ passed, Matching.skipsNode level p = true) (h : List.Forall₂ R gs cs) :
    FitsAmong x level s gs (passed ++ cs) := by
  -- candidates that were passed are carried along until the next partner
  induction h generalizing passed with
  | nil => exact .done (by simpa using hpassed)
  | @cons g c gs cs hgc _ ih =>
    obtain ⟨hlitg, hlitgs⟩ := List.forall_mem_cons.mp hlit
    obtain ⟨hfitsg, hfitsgs⟩ := List.forall_mem_cons.mp hfits
    obtain ⟨hskipsg, hskipsgs⟩ := List.forall_mem_cons.mp hskips
    cases hl : level.skipsGoal g.kind g.named with
    | true =>
      have hall : ∀ p ∈ passed ++ [c], Matching.skipsNode level p = true :=
        List.forall_mem_append.mpr ⟨hpassed, by simpa using hskipsg c hgc hl⟩
      rw [List.append_cons]
      exact .leave hlitg.isRun_eq_false hl (ih hlitgs hfitsgs hskipsgs hall)
    | false =>
      have hnone : ∀ p ∈ ([] : List Node), Matching.skipsNode level p = true := by simp
      exact .pair hlitg.isRun_eq_false hl hpassed (hfitsg c hgc) (ih hlitgs hfitsgs hskipsgs hnone)

/-- At the strictest level, there is no other alignment. -/
theorem forall₂_of_fitsAmong_cst {R : Shape → Node → Prop} {gs : List Shape} {cs : List Node}
    (hlit : ∀ g ∈ gs, g.Literal x) (hfits : ∀ g ∈ gs, ∀ c, Fits x .cst s g c → R g c)
    (h : FitsAmong x .cst s gs cs) : List.Forall₂ R gs cs := by
  have hnil : ∀ {passed : List Node}, (∀ p ∈ passed, Matching.skipsNode .cst p = true) →
      passed = [] :=
    fun hpassed => List.eq_nil_iff_forall_not_mem.mpr fun p hp => by cases hpassed p hp
  induction gs generalizing cs with
  | nil =>
    cases h with
    | done hskips =>
      rw [hnil hskips]
      exact .nil
  | cons g gs ih =>
    obtain ⟨hlitg, hlitgs⟩ := List.forall_mem_cons.mp hlit
    obtain ⟨hfitsg, hfitsgs⟩ := List.forall_mem_cons.mp hfits
    cases h with
    | run hm _ _ => cases hm.symm.trans hlitg.metavariable?_eq_none
    | leave _ hl _ => cases hl
    | pair _ _ hpassed hc h =>
      rw [hnil hpassed]
      exact .cons (hfitsg _ hc) (ih hlitgs hfitsgs h)

/-! ## Equal trees and copies -/

/-- At the strictest level, a literal pattern fits what it equals. -/
theorem fits_cst_iff_equals (hlit : g.Literal x) : Fits x .cst s g c ↔ g.Equals c.shape := by
  induction g using Shape.induct generalizing c with
  | node kind named text goals ih =>
    have hnone := hlit.metavariable?_eq_none
    have ih := fun k hk c => @ih k hk c (hlit.children k hk)
    constructor
    · intro h
      cases h with
      | single hm _ _ | multiple hm _ => cases hm.symm.trans hnone
      | leaf _ hk hc ht =>
        exact .leaf (hk.trans c.kind_shape.symm) hc ((ht rfl).trans c.text_shape.symm)
      | branch _ hk hc h =>
        refine .branch (hk.trans c.kind_shape.symm) hc ?_
        rw [c.children_shape, List.forall₂_map_right_iff]
        exact forall₂_of_fitsAmong_cst hlit.children (fun k hk c => (ih k hk c).mp) h
    · intro h
      cases h with
      | leaf hk hc ht =>
        exact .leaf hnone (hk.trans c.kind_shape) hc fun _ => ht.trans c.text_shape
      | branch hk hc h =>
        rw [c.children_shape, List.forall₂_map_right_iff] at h
        exact .branch hnone (hk.trans c.kind_shape) hc
          (fitsAmong_of_forall₂ hlit.children (fun k hk c => (ih k hk c).mpr)
            (fun _ _ _ _ hl => by cases hl) (fun _ hp => absurd hp List.not_mem_nil) h)

theorem Shape.Copy.kind_eq (h : g.Copy t) : g.kind = t.kind := by
  cases h <;> assumption

theorem Shape.Copy.named_eq (h : g.Copy t) : g.named = t.named := by
  cases h <;> assumption

/-- A literal pattern fits its copies at every level. -/
theorem fits_of_copy (hlit : g.Literal x) (h : g.Copy c.shape) : Fits x level s g c := by
  induction g using Shape.induct generalizing c with
  | node kind named text goals ih =>
    have hnone := hlit.metavariable?_eq_none
    cases h with
    | leaf hk _ hc _ ht =>
      exact .leaf hnone (hk.trans c.kind_shape) hc fun _ => ht.trans c.text_shape
    | branch hk _ hc h =>
      rw [c.children_shape, List.forall₂_map_right_iff] at h
      refine .branch hnone (hk.trans c.kind_shape) hc
        (fitsAmong_of_forall₂ hlit.children (fun k hk c => ih k hk (hlit.children k hk))
          (fun k _ c hcopy hl => ?_) (fun _ hp => absurd hp List.not_mem_nil) h)
      rw [hcopy.kind_eq, hcopy.named_eq, c.kind_shape, c.isNamed_shape] at hl
      exact Strictness.skipsCandidate_of_skipsGoal hl

/-- The shape of a node whose children are leaves. -/
theorem Node.shape_of_leaves {n : Node} (h : ∀ c ∈ n.children, c.children = []) :
    n.shape = .node n.kind n.isNamed n.text
      (n.children.map fun c => .node c.kind c.isNamed c.text []) := by
  have hleaves : n.children.map shape =
      n.children.map fun c => .node c.kind c.isNamed c.text [] := by
    refine List.map_congr_left fun c hc => ?_
    rw [shape_eq, h c hc, List.map_nil]
  rw [shape_eq, hleaves]

namespace Pattern

/-- A literal pattern matches at the strictest level what it equals, and at every level whatever is a
copy of it. Matching binds nothing, and keeps what was bound before. -/
theorem bindings?_of_literal {p : Pattern} (hlit : p.root.shape.Literal p.language.expando)
    (n : Node) :
    ((p.withStrictness .cst).bindings? n = some .empty ↔ p.root.shape.Equals n.shape) ∧
    (∀ level, p.root.shape.Copy n.shape → (p.withStrictness level).bindings? n = some .empty) ∧
    (∀ level e, (p.withStrictness level).bindings? n = some e → e = .empty) ∧
    ∀ level e, (p.withStrictness level).matchNode n e =
      ((p.withStrictness level).bindings? n).map fun _ => e := by
  have hempty : ∀ level e, (p.withStrictness level).bindings? n = some e → e = .empty :=
    fun level e he => Matching.env_eq_of_literal hlit he
  have hiff : ∀ level, (p.withStrictness level).bindings? n = some .empty ↔
      ∃ s, Fits p.language.expando level s p.root.shape n :=
    fun level => Matching.node_empty_iff_of_literal hlit
  refine ⟨?_, fun level hcopy => ?_, hempty, fun level e => ?_⟩
  · rw [hiff]
    constructor
    · rintro ⟨s, h⟩
      exact (fits_cst_iff_equals hlit).mp h
    · exact fun h => ⟨Env.empty.assignment, (fits_cst_iff_equals hlit).mpr h⟩
  · rw [hiff]
    exact ⟨Env.empty.assignment, fits_of_copy hlit hcopy⟩
  · rw [matchNode]
    cases hb : (p.withStrictness level).bindings? n with
    | none => rfl
    | some b => rw [hempty level b hb, Option.bind_some, Env.merge_empty, Option.map_some]

end Pattern

/-! ## Blanks -/

/-- The pattern `[a b]`. -/
def pairPattern : Pattern where
  source := "[a b]".toList
  language := .parsing fun _ => none
  metavariables := []
  tree := ⟨0, .parsing fun _ => none, "[a b]".toList,
    [.plain none "list" true 0 5, .plain (some 0) "[" false 0 1, .plain (some 0) "name" true 1 2,
      .plain (some 0) "name" true 3 4, .plain (some 0) "]" false 4 5]⟩
  rootId := 0
  strictness := .smart

/-- The text `[ a  b ]`. -/
def spacedPair : Tree where
  stamp := 1
  language := .parsing fun _ => none
  source := "[ a  b ]".toList
  records :=
    [.plain none "list" true 0 8, .plain (some 0) "[" false 0 1, .plain (some 0) "name" true 2 3,
      .plain (some 0) "name" true 5 6, .plain (some 0) "]" false 7 8]

/-- The leaves of both. -/
def pairLeaves : List Shape :=
  [.node "[" false "[".toList [], .node "name" true "a".toList [],
    .node "name" true "b".toList [], .node "]" false "]".toList []]

/-- Blanks between the leaves make no difference at any level. -/
theorem bindings?_spacedPair :
    pairPattern.root.shape.Literal '_' ∧ pairPattern.root.shape.Copy spacedPair.root.shape ∧
      ∀ level, (pairPattern.withStrictness level).bindings? spacedPair.root = some .empty := by
  have hpattern : pairPattern.root.shape = .node "list" true "[a b]".toList pairLeaves := by
    rw [Node.shape_of_leaves (by decide)]
    rfl
  have htext : spacedPair.root.shape = .node "list" true "[ a  b ]".toList pairLeaves := by
    rw [Node.shape_of_leaves (by decide)]
    rfl
  have hleaves : ∀ g ∈ pairLeaves, g.metavariable? '_' = none ∧ g.children = [] := by decide
  have hlit : pairPattern.root.shape.Literal '_' := by
    rw [hpattern]
    refine .intro (by decide) fun g hg => ?_
    obtain ⟨hnone, hnil⟩ := hleaves g hg
    exact .intro hnone fun k hk => absurd (hnil ▸ hk) List.not_mem_nil
  have hcopy : pairPattern.root.shape.Copy spacedPair.root.shape := by
    rw [hpattern, htext]
    exact .branch rfl rfl (List.cons_ne_nil _ _) (List.forall₂_same.mpr fun g _ => g.copy_refl)
  obtain ⟨-, hcopies, -⟩ := Pattern.bindings?_of_literal (p := pairPattern) hlit spacedPair.root
  exact ⟨hlit, hcopy, fun level => hcopies level hcopy⟩

end StructuralSearch
